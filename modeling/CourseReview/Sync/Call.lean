import CourseReview.Api.Endpoint
import CourseReview.Session.Approve
import CourseReview.Session.Fetch
import CourseReview.Session.Versions

/-!
# Calls and exchanges

A reviewer works through calls.  A call begins by one step of the session and then is either done,
or has one exchange with the server to wait for, or has a list of units to fetch.  The exchange is
over when the reply has been taken into the session, and its outcome is the answer to the call.

A reply to a ticket of an earlier generation does not fail the call; it leaves the answer empty.
-/

namespace CourseReview

/-- What a reviewer can ask for. -/
inductive Call where
  | load (rerunId : String)
  | toggle (path : NodePath)
  | toggleAll
  | loadUnits (path : NodePath)
  | select (path : NodePath) (version : VersionId)
  | apply (path : NodePath)
  | approve (path : NodePath)
  | pairings
  | send (request : HttpRequest)
  | readNotifications

/-- What expanding or collapsing a node leads to; the flag is there if content was fetched. -/
structure Toggled where
  visibility : Visibility
  hasEligible : Option Bool
deriving DecidableEq, Repr

/-- The answer to a call; where a value is optional, a reply that came too late leaves it out. -/
inductive Answer where
  | loaded (outline : Option Outline)
  | toggled (outcome : Option Toggled)
  | visibility (shown : Visibility)
  | unitsLoaded (count : Nat)
  | selected (selection : Option Selection)
  | applied (isApplied : Bool)
  | approved (count : Option Nat)
  | pairings (list : List CoursePairing)
  | reply (received : HttpReply)
  | notifications (list : List Notification)

/-- The outcome in which a reply that came too late is no failure. -/
def unlessStale {α : Type} : Outcome α → Outcome (Option α)
  | .ok a => .ok (some a)
  | .error e => if e.isStale then .ok none else .error e

/-! ## Exchanges -/

/-- An exchange with the server, by what is to be done with the reply. -/
inductive Exchange where
  | load (ticket : LoadTicket)
  | toggle (ticket : Ticket UnitFetch) (shown : Visibility)
  | select (ticket : Ticket VersionFetch)
  | apply (ticket : Ticket VersionApply)
  | approve (ticket : Ticket ApprovalRequest)
  | pairings
  | send (request : HttpRequest)

namespace Exchange

/-- The request of the exchange.  One of the reviewer's own needs an address that can be read. -/
def request (server : ReviewServer) : Exchange → Outcome HttpRequest
  | .load t => server.request (.outline t.rerunId)
  | .toggle t _ => server.request (.components t.request.usageKey)
  | .select t => server.request (.version t.request.version)
  | .apply t => server.request (.apply t.request.usageKey t.request.version)
  | .approve t => server.request (.approve t.request.blockIds)
  | .pairings => server.request .pairings
  | .send r =>
    match Url.parse r.url with
    | .ok _ => .ok r
    | .error e => .error (.badUrl e)

/-- Takes the reply into the session, which gives the answer to the call. -/
def finish (reply : Outcome HttpReply) (s : Session) : Exchange → Step Answer
  | .load t =>
    let (result, s) := s.finishLoad t (readAnswer Outline.form.decode reply)
    ((unlessStale result).map .loaded, s)
  | .toggle t shown =>
    let (result, s) := s.finishUnitFetch t (readAnswer UnitComponents.form.decode reply)
    ((unlessStale result).map fun flag? =>
      .toggled (flag?.map fun flag => ⟨shown, some flag⟩), s)
  | .select t =>
    let (result, s) := s.finishSelect t (readAnswer VersionPayload.form.decode reply)
    ((unlessStale result).map .selected, s)
  | .apply t =>
    let (result, s) := s.finishApply t (readAnswer AppliedVersion.form.decode reply)
    ((unlessStale result).map fun done? => .applied done?.isSome, s)
  | .approve t =>
    let (result, s) := s.finishApprove t (readAnswer ApprovalPatch.decode reply)
    ((unlessStale result).map .approved, s)
  | .pairings => ((readAnswer CoursePairing.decodeAll reply).map fun m => .pairings m.values, s)
  | .send _ => (reply.map .reply, s)

end Exchange

/-! ## Beginning -/

/-- How a call begins. -/
inductive Beginning where
  | done (result : Outcome Answer)
  | exchange (e : Exchange)
  | units (tickets : List (Ticket UnitFetch))

/-- Begins to fetch every unit in the list that needs it. -/
def Session.beginUnitFetches (s : Session) : List NodePath → Step (List (Ticket UnitFetch))
  | [] => (.ok [], s)
  | p :: rest =>
    match s.beginUnitFetch p with
    | (.error e, s) => (.error e, s)
    | (.ok t?, s) =>
      match s.beginUnitFetches rest with
      | (.error e, s) => (.error e, s)
      | (.ok ts, s) => (.ok (t?.toList ++ ts), s)

/-- Begins to fetch every unit at or below a path that needs it, in the order of the outline. -/
def Session.beginLoadUnits (s : Session) (p : NodePath) : Step (List (Ticket UnitFetch)) :=
  match s.requireOutline with
  | .error e => (.error e, s)
  | .ok o =>
    match o.rerun.unitPaths p with
    | .error e => (.error e, s)
    | .ok paths => s.beginUnitFetches paths

/-- Begins a call. -/
def Call.start (s : Session) : Call → Beginning × Session
  | .load rerunId =>
    let (t, s) := s.beginLoad rerunId
    (.exchange (.load t), s)
  | .toggle p =>
    match s.toggle p with
    | (.error e, s) => (.done (.error e), s)
    | (.ok none, s) => (.done (.ok (.toggled (some ⟨s.expansion.visibility p, none⟩))), s)
    | (.ok (some t), s) => (.exchange (.toggle t (s.expansion.visibility p)), s)
  | .toggleAll =>
    let (shown, s) := s.toggleAll
    (.done (.ok (.visibility shown)), s)
  | .loadUnits p =>
    match s.beginLoadUnits p with
    | (.error e, s) => (.done (.error e), s)
    | (.ok ts, s) => (.units ts, s)
  | .select p version =>
    match s.beginSelect p version with
    | (.error e, s) => (.done (.error e), s)
    | (.ok (.done selected), s) => (.done (.ok (.selected (some selected))), s)
    | (.ok (.fetch t), s) => (.exchange (.select t), s)
  | .apply p =>
    match s.beginApply p with
    | (.error e, s) => (.done (.error e), s)
    | (.ok t, s) => (.exchange (.apply t), s)
  | .approve p =>
    match s.beginApprove p with
    | (.error e, s) => (.done (.error e), s)
    | (.ok t, s) => (.exchange (.approve t), s)
  | .pairings => (.exchange .pairings, s)
  | .send r => (.exchange (.send r), s)
  | .readNotifications =>
    let (list, s) := s.takeNotifications
    (.done (.ok (.notifications list)), s)

end CourseReview
