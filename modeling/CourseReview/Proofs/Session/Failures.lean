import CourseReview.Proofs.Session.Overlap

/-!
# Failed requests

Each of the five ways to hand a ticket back has its own way to fail: with the failure that came
instead of a reply, or with content that has no place in the base course.  This file settles that a
failure changes nothing but what the request itself had marked.

* What a failure does is to take the mark of the ticket away, which is its flag and, for a unit, that
  its content is on the way (`Session.release`), and perhaps to tell the reviewer (`Session.tell`).
  That holds whatever else is under way (`Review.Sound.next_of_failed`).
* The mark is all that beginning a request leaves (`Review.Sound.release_begun`), and so a request
  that fails at once might as well not have been made.

`Trace.failures_leave_nothing` puts them together.
-/

namespace CourseReview

/-! ## 1. What a failure does -/

/-- What the request of the ticket is called in messages. -/
def SomeTicket.describe : SomeTicket → String
  | .load _ => loadName
  | .fetch t => Activity.expand.describe t.path
  | .select t => Activity.selectVersion.describe t.path
  | .apply t => Activity.applyVersion.describe t.path
  | .approve t => Activity.approve.describe t.path

/-- The failure that the event brings in the place of a reply. -/
def Event.replyFailure? : Event → Option ReviewError
  | .finishLoad _ reply => failure? reply
  | .finishUnitFetch _ reply => failure? reply
  | .finishSelect _ reply => failure? reply
  | .finishApply _ reply => failure? reply
  | .finishApprove _ reply => failure? reply
  | _ => none

namespace Session

/-- The session without the mark that the ticket was out. -/
def release (s : Session) : SomeTicket → Session
  | .load _ => { s with loading := false }
  | .fetch t =>
    { s.setBusy .expand t.path false with expansion := s.expansion.finishFetch t.path false }
  | .select t => s.setBusy .selectVersion t.path false
  | .apply t => s.setBusy .applyVersion t.path false
  | .approve t => s.setBusy .approve t.path false

/-- The session with more notifications. -/
def tell (s : Session) (ns : List Notification) : Session :=
  { s with notifications := s.notifications ++ ns }

variable {s : Session}

/-- The effect of a failure is that the activity is idle again. -/
theorem settleWith_failed_eq (s : Session) (a : Activity) (p : NodePath) (e : ReviewError)
    (response : Response) :
    s.settleWith (.failed a p e response) =
      (s.setBusy a p false).tell (e.notices (a.describe p)) :=
  Session.ext rfl rfl (map_update_id _ p) (expansion_alterAt_id _ p) (alterAt_id p _) rfl rfl rfl

/-- The effect of content that has not come is that the unit is idle and without content again. -/
theorem settleWith_unfilled_eq (s : Session) (t : Ticket UnitFetch) (e : ReviewError) :
    s.settleWith (.unfilled t e) =
      (s.release (.fetch t)).tell (e.notices (Activity.expand.describe t.path)) :=
  Session.ext rfl rfl (map_update_id _ t.path) (finishFetch_eq _ t.path false).symm
    (alterAt_id t.path _) rfl rfl rfl

/-- **An effect with which a request fails** releases its ticket, and no more. -/
theorem settleWith_of_failure {e : Event} {t : SomeTicket} (ht : e.ticket? = some t) {n : Node}
    {hasBase : Bool} {x : Effect} (hx : e.effect? n hasBase = some x) {f : ReviewError}
    (hf : x.response.failure? = some f) :
    s.settleWith x = (s.release t).tell (f.notices t.describe) := by
  cases e with
  | finishUnitFetch t reply =>
    obtain rfl := Option.some.inj ht
    cases reply with
    | error e =>
      cases hx
      obtain rfl := Option.some.inj hf
      exact s.settleWith_unfilled_eq t e
    | ok components =>
      cases hasBase with
      | true => cases hx; cases hf
      | false =>
        cases hx
        obtain rfl := Option.some.inj hf
        exact s.settleWith_unfilled_eq t _
  | finishSelect t reply =>
    obtain rfl := Option.some.inj ht
    cases reply with
    | error e =>
      cases hx
      obtain rfl := Option.some.inj hf
      exact s.settleWith_failed_eq ..
    | ok payload => cases hx; cases hf
  | finishApply t reply =>
    obtain rfl := Option.some.inj ht
    cases reply with
    | error e =>
      cases hx
      obtain rfl := Option.some.inj hf
      exact s.settleWith_failed_eq ..
    | ok applied => cases hx; cases hf
  | finishApprove t reply =>
    obtain rfl := Option.some.inj ht
    cases reply with
    | error e =>
      cases hx
      obtain rfl := Option.some.inj hf
      exact s.settleWith_failed_eq ..
    | ok patch => cases hx; cases hf
  | _ => cases hx

/-- So does the failure of a load. -/
theorem Move.loading_failed {t : LoadTicket} {reply : Outcome Outline} {a : Response} {s' : Session}
    (h : Move s (.finishLoad t reply) a s') (hcurrent : t.generation = s.generation)
    {f : ReviewError} (hf : a.failure? = some f) :
    s' = (s.release (.load t)).tell (f.notices loadName) := by
  cases h with
  | loadFailed _ hns =>
    obtain rfl := Option.some.inj hf
    have hns := announced hns
    rw [hns]
    rfl
  | loaded _ => cases hf
  | stale ht hstale _ =>
    obtain rfl := Option.some.inj ht
    exact absurd hcurrent hstale
  | refused ht _ => cases ht

/-- The failure in the place of a reply is the one that is reported. -/
theorem Move.failure?_of_reply {e : Event} {a : Response} {s' : Session} (h : Move s e a s')
    {t : SomeTicket} (ht : e.ticket? = some t) (hcurrent : t.generation = s.generation)
    {f : ReviewError} (hf : e.replyFailure? = some f) : a.failure? = some f := by
  cases h with
  | stale ht' hstale _ =>
    obtain rfl := Option.some.inj (ht.symm.trans ht')
    exact absurd hcurrent hstale
  | refused ht' _ => rw [ht] at ht'; cases ht'
  | loadFailed _ _ => exact hf
  | selectFailed _ _ => exact hf
  | applyFailed _ _ => exact hf
  | approveFailed _ _ => exact hf
  | @fetchFailed t' reply _ _ _ hfailed _ =>
    -- content can fail later, too, but not when there is none
    cases reply with
    | ok components => cases hf
    | error e' =>
      obtain rfl := Except.error.inj hfailed
      exact hf
  | _ => cases hf

end Session

namespace Review.Sound

variable {r : Review}

/-- **A request that fails releases its ticket, and no more**, whatever else is under way. -/
theorem next_of_failed (h : r.Sound) {e : Event} {t : SomeTicket} (hmem : t ∈ r.unfinished)
    (ht : e.ticket? = some t) (hcurrent : t.generation = r.session.generation) {f : ReviewError}
    (hf : (r.answer e).failure? = some f) :
    (r.next e).session = (r.session.release t).tell (f.notices t.describe) := by
  cases hflag : t.flag with
  | none =>
    -- only loads have no node
    cases e with
    | finishLoad t' reply =>
      obtain rfl := Option.some.inj ht
      exact (r.move _).loading_failed hcurrent hf
    | _ => cases ht <;> cases hflag
  | some k =>
    obtain ⟨x, hx, -, -⟩ := h.awaits hmem ht hcurrent hflag
    have hperform := hx.perform
    obtain ⟨_, n, -, -, heffect⟩ := hx.effect
    rw [Review.answer, hperform] at hf
    rw [Review.next, hperform]
    exact Session.settleWith_of_failure ht heffect hf

end Review.Sound

/-! ## 2. What a request leaves until its reply comes -/

/-- Whether the event asks the server for something about a node, and does no more. -/
def Event.requests : Event → Bool
  | .beginUnitFetch _ => true
  | .beginSelect _ _ => true
  | .beginApply _ => true
  | .beginApprove _ => true
  | _ => false

namespace Session

/-- An idle activity that begins and ends is idle. -/
theorem setBusy_undo {s : Session} {a : Activity} {p : NodePath} (hidle : s.busy a p = false) :
    (s.setBusy a p true).setBusy a p false = s := by
  refine Session.ext rfl rfl rfl rfl rfl rfl (funext fun b => funext fun q => ?_) rfl
  simp only [setBusy]
  split
  · rename_i hk
    rw [hk.1, hk.2, hidle]
  · rfl

end Session

/-- A fetch that begins and fails leaves the unit as it was. -/
theorem Expansion.finishFetch_beginFetch {x : Expansion} {p : NodePath}
    (hload : x.loadState p = .notFetched) : (x.beginFetch p).2.finishFetch p false = x := by
  rw [beginFetch, if_pos hload, finishFetch, setView, setView]
  congr 1
  funext q
  dsimp only
  split
  · rename_i hq
    rw [hq, if_pos rfl, ← hload]
    rfl
  · rfl

/-- **All that a request leaves is the mark of its ticket.** -/
theorem Review.Sound.release_begun {r : Review} (h : r.Sound) {b : Event} (hb : b.requests = true)
    {t : SomeTicket} (ht : (r.answer b).ticket? = some t) :
    t.generation = r.session.generation ∧ b.ticket? = none ∧
      (r.next b).session.generation = r.session.generation ∧
      (r.next b).session.release t = r.session := by
  have hmove := r.move b
  generalize hs : (r.next b).session = s, hres : r.answer b = a at hmove ht
  cases hmove with
  | selectBegun _ hidle _ =>
    obtain rfl := Option.some.inj ht
    exact ⟨rfl, rfl, rfl, Session.setBusy_undo hidle⟩
  | applyBegun _ _ _ _ hidle =>
    obtain rfl := Option.some.inj ht
    exact ⟨rfl, rfl, rfl, Session.setBusy_undo hidle⟩
  | approveBegun _ hidle _ =>
    obtain rfl := Option.some.inj ht
    exact ⟨rfl, rfl, rfl, Session.setBusy_undo hidle⟩
  | @fetchBegun p n _ _ hload =>
    obtain rfl := Option.some.inj ht
    refine ⟨rfl, rfl, rfl, ?_⟩
    have hidle : r.session.busy .expand p = false := h.coherent.isUp_eq_false (.inr ⟨rfl, hload⟩)
    have hbusy := congrArg Session.busy (Session.setBusy_undo hidle)
    exact Session.ext rfl rfl rfl (Expansion.finishFetch_beginFetch hload) rfl rfl hbusy rfl
  | stale _ _ ha => rw [Response.ticket?_of_failure ha] at ht; cases ht
  | refused _ ha => rw [Response.ticket?_of_failure ha] at ht; cases ht
  | loadBegun _ => cases hb
  | toggledToFetch _ _ => cases hb
  | _ => cases ht

/-! ## 3. Nothing is left -/

/-- **A failed request leaves nothing behind.**  In every review:

* when a request for a node fails as soon as it is made, whatever the failure, that failure is
  reported and the session is the one before the request, and in addition the reviewer is told once of
  a failed exchange with the server;
* when a ticket comes back later, in its generation, and that fails, the session is as it was without
  the mark of this ticket, and in addition the reviewer is told in the same way; so it is when a load
  fails;
* a failure that comes in the place of a reply is the one reported;
* content for a unit that is not in the base course fails in this way too, without a word to the
  reviewer;
* a ticket of another generation changes nothing at all. -/
theorem Trace.failures_leave_nothing {h : List Record} {r : Review} (htrace : Trace {} h r) :
    (∀ b t e f, b.requests = true → (r.answer b).ticket? = some t → e.ticket? = some t →
      e.replyFailure? = some f →
      ((r.next b).answer e).failure? = some f ∧
        ((r.next b).next e).session = r.session.tell (f.notices t.describe)) ∧
    (∀ t ∈ r.unfinished, t.generation = r.session.generation → ∀ e, e.ticket? = some t →
      (∀ f, (r.answer e).failure? = some f →
        (r.next e).session = (r.session.release t).tell (f.notices t.describe)) ∧
      ∀ f, e.replyFailure? = some f → (r.answer e).failure? = some f) ∧
    (∀ t, .fetch t ∈ r.unfinished → t.generation = r.session.generation → ∀ components o,
      r.session.outline = some o → t.path.resolve o.base = none →
      r.answer (.finishUnitFetch t (.ok components)) =
          .fetched (.error (.nodeNotFound t.path.text)) ∧
        (r.next (.finishUnitFetch t (.ok components))).session = r.session.release (.fetch t)) ∧
    ∀ e t, e.ticket? = some t → t.generation ≠ r.session.generation →
      (r.next e).session = r.session := by
  have hsound := htrace.sound
  refine ⟨fun b t e f hb hbegun ht hf => ?_, fun t hmem hcurrent e ht => ⟨fun f hf => ?_, fun f hf => ?_⟩,
    fun t hmem hcurrent components o ho hbase => ?_, fun e t ht hstale => ?_⟩
  · obtain ⟨hgen, hback, hkept, hreleased⟩ := hsound.release_begun hb hbegun
    have hnext : (r.next b).Sound := hsound.next (.of_begin hback)
    have hmem : t ∈ (r.next b).unfinished := by
      rw [r.unfinished_next_of_out hback hbegun]
      exact List.mem_append_right _ (List.mem_singleton.mpr rfl)
    have hcurrent : t.generation = (r.next b).session.generation := hgen.trans hkept.symm
    have hfailed := ((r.next b).move e).failure?_of_reply ht hcurrent hf
    refine ⟨hfailed, ?_⟩
    rw [hnext.next_of_failed hmem ht hcurrent hfailed, hreleased]
  · exact hsound.next_of_failed hmem ht hcurrent hf
  · exact (r.move e).failure?_of_reply ht hcurrent hf
  · obtain ⟨x, hx, -, -⟩ := hsound.awaits hmem (e := .finishUnitFetch t (.ok components)) rfl hcurrent
      (a := .expand) (p := t.path) rfl
    have hanswer : r.answer (.finishUnitFetch t (.ok components)) =
        .fetched (.error (.nodeNotFound t.path.text)) := by
      obtain ⟨o', n, ho', hn, heffect⟩ := hx.effect
      obtain rfl := Option.some.inj (ho.symm.trans ho')
      have hpath : x.path = t.path :=
        (Prod.mk.inj (Option.some.inj (Event.effect?_flag heffect rfl))).2.symm
      rw [hpath, hbase] at heffect
      obtain rfl := Option.some.inj heffect
      rw [Review.answer, hx.perform]
      rfl
    refine ⟨hanswer, ?_⟩
    rw [hsound.next_of_failed hmem rfl hcurrent (by rw [hanswer]; rfl)]
    exact Session.ext rfl rfl rfl rfl rfl rfl rfl (List.append_nil _)
  · exact (Session.perform_stale ht hstale).1

open Sample in
/-- The content of a unit is asked for, and the server cannot be reached.  The session is what it was,
and the reviewer is told. -/
theorem Trace.unit_fetch_fails :
    ∃ h, Trace {} h unitLoaded ∧
      (unitLoaded.answer (.beginUnitFetch unitPath)).ticket? = some (.fetch unitTicket) ∧
      (unitFetching.next (.finishUnitFetch unitTicket (.error .connectionFailed))).session =
        unitLoaded.session.tell [⟨.error, "Could not expand for S1/Q1/U1: " ++
          "HTTP error: the request cannot be sent"⟩] := by
  obtain ⟨h, htrace⟩ := unitLoaded_trace
  have hbegun : (unitLoaded.answer (.beginUnitFetch unitPath)).ticket? = some (.fetch unitTicket) := rfl
  have hnotices : ReviewError.connectionFailed.notices (SomeTicket.fetch unitTicket).describe =
      [⟨.error, "Could not expand for S1/Q1/U1: " ++ "HTTP error: the request cannot be sent"⟩] := by
    decide
  obtain ⟨-, hsession⟩ := (Trace.failures_leave_nothing htrace).1 (.beginUnitFetch unitPath) _
    (.finishUnitFetch unitTicket (.error .connectionFailed)) .connectionFailed rfl hbegun rfl rfl
  rw [hnotices] at hsession
  exact ⟨h, htrace, hbegun, hsession⟩

end CourseReview
