import CourseReview.Session.Approve
import CourseReview.Session.Fetch
import CourseReview.Session.Versions

/-!
# Sessions as machines

The operations of a session as one step function: an event goes in, a response comes out, and the
session is another (`Session.perform`).  Events that finish something carry the ticket handed back
and the reply of the server, whatever that is; responses that begin something carry the ticket
handed out.

What holds of all events that finish something is settled here: a ticket of another generation is
refused, whatever the reply, and leaves the session as it was (`Session.perform_stale`).
-/

namespace CourseReview

/-- A ticket of any sort. -/
inductive SomeTicket where
  | load (t : LoadTicket)
  | fetch (t : Ticket UnitFetch)
  | select (t : Ticket VersionFetch)
  | apply (t : Ticket VersionApply)
  | approve (t : Ticket ApprovalRequest)
deriving DecidableEq, Repr

/-- The generation in which the ticket was handed out. -/
def SomeTicket.generation : SomeTicket → Nat
  | .load t => t.generation
  | .fetch t => t.generation
  | .select t => t.generation
  | .apply t => t.generation
  | .approve t => t.generation

/-- What can happen to a session: the reviewer asks for something, or a ticket comes back with the
reply of the server. -/
inductive Event where
  | beginLoad (rerunId : String)
  | finishLoad (t : LoadTicket) (reply : Outcome Outline)
  | toggle (p : NodePath)
  | beginUnitFetch (p : NodePath)
  | finishUnitFetch (t : Ticket UnitFetch) (reply : Outcome UnitComponents)
  | toggleAll
  | beginSelect (p : NodePath) (version : VersionId)
  | finishSelect (t : Ticket VersionFetch) (reply : Outcome VersionPayload)
  | beginApply (p : NodePath)
  | finishApply (t : Ticket VersionApply) (reply : Outcome AppliedVersion)
  | beginApprove (p : NodePath)
  | finishApprove (t : Ticket ApprovalRequest) (reply : Outcome ApprovalPatch)
  | takeNotifications

/-- What a session answers to an event. -/
inductive Response where
  | loadBegun (t : LoadTicket)
  | loaded (result : Outcome Outline)
  | fetchBegun (result : Outcome (Option (Ticket UnitFetch)))
  | fetched (result : Outcome Bool)
  | shown (visibility : Visibility)
  | selectBegun (result : Outcome SelectStep)
  | selected (result : Outcome Selection)
  | applyBegun (result : Outcome (Ticket VersionApply))
  | applied (result : Outcome Unit)
  | approveBegun (result : Outcome (Ticket ApprovalRequest))
  | approved (result : Outcome Nat)
  | notified (notifications : List Notification)

/-- The ticket that the event hands back. -/
def Event.ticket? : Event → Option SomeTicket
  | .finishLoad t _ => some (.load t)
  | .finishUnitFetch t _ => some (.fetch t)
  | .finishSelect t _ => some (.select t)
  | .finishApply t _ => some (.apply t)
  | .finishApprove t _ => some (.approve t)
  | _ => none

/-- The ticket that the response hands out. -/
def Response.ticket? : Response → Option SomeTicket
  | .loadBegun t => some (.load t)
  | .fetchBegun (.ok (some t)) => some (.fetch t)
  | .selectBegun (.ok (.fetch t)) => some (.select t)
  | .applyBegun (.ok t) => some (.apply t)
  | .approveBegun (.ok t) => some (.approve t)
  | _ => none

/-- The failure of an operation. -/
def failure? {α : Type} : Outcome α → Option ReviewError
  | .ok _ => none
  | .error e => some e

/-- The failure that the response reports. -/
def Response.failure? : Response → Option ReviewError
  | .loaded result => CourseReview.failure? result
  | .fetchBegun result => CourseReview.failure? result
  | .fetched result => CourseReview.failure? result
  | .selectBegun result => CourseReview.failure? result
  | .selected result => CourseReview.failure? result
  | .applyBegun result => CourseReview.failure? result
  | .applied result => CourseReview.failure? result
  | .approveBegun result => CourseReview.failure? result
  | .approved result => CourseReview.failure? result
  | .loadBegun _ => none
  | .shown _ => none
  | .notified _ => none

namespace Session

/-- What the session answers to an event, and the session after it. -/
def perform (s : Session) : Event → Response × Session
  | .beginLoad rerunId => (s.beginLoad rerunId).map .loadBegun id
  | .finishLoad t reply => (s.finishLoad t reply).map .loaded id
  | .toggle p => (s.toggle p).map .fetchBegun id
  | .beginUnitFetch p => (s.beginUnitFetch p).map .fetchBegun id
  | .finishUnitFetch t reply => (s.finishUnitFetch t reply).map .fetched id
  | .toggleAll => s.toggleAll.map .shown id
  | .beginSelect p version => (s.beginSelect p version).map .selectBegun id
  | .finishSelect t reply => (s.finishSelect t reply).map .selected id
  | .beginApply p => (s.beginApply p).map .applyBegun id
  | .finishApply t reply => (s.finishApply t reply).map .applied id
  | .beginApprove p => (s.beginApprove p).map .approveBegun id
  | .finishApprove t reply => (s.finishApprove t reply).map .approved id
  | .takeNotifications => s.takeNotifications.map .notified id

/-- The session after some events. -/
def after (s : Session) (es : List Event) : Session :=
  es.foldl (fun s e => (s.perform e).2) s

/-- The tickets handed out in the course of some events. -/
def issued : Session → List Event → List SomeTicket
  | _, [] => []
  | s, e :: es => (s.perform e).1.ticket?.toList ++ issued (s.perform e).2 es

@[simp] theorem after_nil (s : Session) : s.after [] = s := rfl

@[simp] theorem after_cons (s : Session) (e : Event) (es : List Event) :
    s.after (e :: es) = (s.perform e).2.after es := rfl

/-! ## 1. Settling a ticket -/

/-- A ticket of another generation is refused. -/
theorem settle_stale {ρ : Type} {s : Session} {t : Ticket ρ} (h : t.generation ≠ s.generation)
    (a : Activity) : s.settle a t = .error (.staleResponse t.generation s.generation) := by
  rw [settle, if_neg h]

/-- A ticket of this generation leaves its activity idle. -/
theorem settle_current {ρ : Type} {s : Session} {t : Ticket ρ} (h : t.generation = s.generation)
    (a : Activity) : s.settle a t = .ok (s.setBusy a t.path false) := by
  rw [settle, if_pos h]

/-- The same for the loading of a pairing. -/
theorem finishLoad_stale {s : Session} {t : LoadTicket} (h : t.generation ≠ s.generation)
    (reply : Outcome Outline) :
    s.finishLoad t reply = (.error (.staleResponse t.generation s.generation), s) := by
  rw [finishLoad, if_neg h]

/-- **A ticket of another generation has no effect.**  Whatever the reply that comes with it, it is
refused for its generation, and the session is what it was. -/
theorem perform_stale {s : Session} {e : Event} {t : SomeTicket} (ht : e.ticket? = some t)
    (h : t.generation ≠ s.generation) :
    (s.perform e).2 = s ∧
      (s.perform e).1.failure? = some (.staleResponse t.generation s.generation) := by
  cases e with
  | finishLoad t' reply =>
    obtain rfl := Option.some.inj ht
    rw [perform, finishLoad_stale h]; exact ⟨rfl, rfl⟩
  | finishUnitFetch t' reply =>
    obtain rfl := Option.some.inj ht
    rw [perform, finishUnitFetch, settle_stale h]; exact ⟨rfl, rfl⟩
  | finishSelect t' reply =>
    obtain rfl := Option.some.inj ht
    rw [perform, finishSelect, settle_stale h]; exact ⟨rfl, rfl⟩
  | finishApply t' reply =>
    obtain rfl := Option.some.inj ht
    rw [perform, finishApply, settle_stale h]; exact ⟨rfl, rfl⟩
  | finishApprove t' reply =>
    obtain rfl := Option.some.inj ht
    rw [perform, finishApprove, settle_stale h]; exact ⟨rfl, rfl⟩
  | _ => cases ht

end Session

end CourseReview
