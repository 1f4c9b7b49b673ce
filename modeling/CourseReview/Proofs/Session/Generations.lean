import CourseReview.Proofs.Session.Parts

/-!
# What is left of an abandoned pairing

Loading a pairing abandons the one before it.  This file settles what the tickets of the abandoned
one can still do, and what the new one remembers.

**Section 1**: tickets are of the generation of their time, so that those handed out before a load
and those handed out since are told apart by one number (`Session.issued_le`,
`Session.issued_ge`).  **Section 2**: handing back a ticket of the past changes nothing, wherever
it happens, and can be left out of any history (`Session.after_dropAbandoned`,
`Session.transcript_dropAbandoned`).  **Section 3**: a session in a later generation, with
notifications nobody has read, works like the same session without them.  The two are compared by
`Session.offset`, one lemma an operation; `Session.perform_offset` puts them together.
**Section 4** is the result: after a load the session is a new session after that load, but for
the number of the generation and the notifications still queued.
-/

namespace CourseReview

/-! ## 1. Generations -/

/-- The generation of the ticket that the event hands back. -/
def Event.generation? (e : Event) : Option Nat :=
  e.ticket?.map (·.generation)

/-- Whether the event hands back a ticket of that generation or an earlier one. -/
def Event.isAbandoned (k : Nat) (e : Event) : Bool :=
  e.generation?.any (· ≤ k)

/-- The events without those that hand back a ticket of that generation or an earlier one. -/
def dropAbandoned (k : Nat) (es : List Event) : List Event :=
  es.filter (!·.isAbandoned k)

namespace Session

/-- The generation never falls. -/
theorem generation_le_perform (s : Session) (e : Event) :
    s.generation ≤ (s.perform e).2.generation :=
  (s.perform_move e).flags.generation_le

theorem generation_le_after (s : Session) (es : List Event) :
    s.generation ≤ (s.after es).generation := by
  induction es generalizing s with
  | nil => exact Nat.le_refl _
  | cons e es ih => exact Nat.le_trans (s.generation_le_perform e) (ih _)

/-- A ticket handed out by now is of this generation or an earlier one. -/
theorem issued_le {s : Session} {es : List Event} {t : SomeTicket} (h : t ∈ s.issued es) :
    t.generation ≤ (s.after es).generation := by
  induction es generalizing s with
  | nil => cases h
  | cons e es ih =>
    rcases List.mem_append.mp h with h | h
    · have ht : (s.perform e).1.ticket? = some t := Option.mem_toList.mp h
      rw [(s.perform_move e).flags.ticket_generation ht]
      exact generation_le_after _ es
    · exact ih h

/-- A ticket handed out from now on is of this generation or a later one. -/
theorem issued_ge {s : Session} {es : List Event} {t : SomeTicket} (h : t ∈ s.issued es) :
    s.generation ≤ t.generation := by
  induction es generalizing s with
  | nil => cases h
  | cons e es ih =>
    rcases List.mem_append.mp h with h | h
    · have ht : (s.perform e).1.ticket? = some t := Option.mem_toList.mp h
      rw [(s.perform_move e).flags.ticket_generation ht]
      exact s.generation_le_perform e
    · exact Nat.le_trans (s.generation_le_perform e) (ih h)

/-! ## 2. Tickets of the past -/

/-- What was answered to each of some events. -/
def transcript : Session → List Event → List (Event × Response)
  | _, [] => []
  | s, e :: es => (e, (s.perform e).1) :: transcript (s.perform e).2 es

/-- In a later generation, a ticket of the past is refused and leaves the session as it was. -/
theorem perform_abandoned {s : Session} {k : Nat} {e : Event} (hk : k < s.generation)
    (he : e.isAbandoned k = true) :
    ∃ g, e.generation? = some g ∧ (s.perform e).2 = s ∧
      (s.perform e).1.failure? = some (.staleResponse g s.generation) := by
  rw [Event.isAbandoned, Option.any_eq_true] at he
  obtain ⟨g, hg, hle⟩ := he
  obtain ⟨t, ht, rfl⟩ := Option.map_eq_some_iff.mp hg
  have hne : t.generation ≠ s.generation := by
    have := of_decide_eq_true hle
    omega
  exact ⟨t.generation, hg, perform_stale ht hne⟩

/-- **Tickets of the past do not count.**  Without them the session ends up the same. -/
theorem after_dropAbandoned {s : Session} {k : Nat} (hk : k < s.generation) (es : List Event) :
    s.after (dropAbandoned k es) = s.after es := by
  induction es generalizing s with
  | nil => rfl
  | cons e es ih =>
    have hk' : k < (s.perform e).2.generation :=
      Nat.lt_of_lt_of_le hk (s.generation_le_perform e)
    cases he : e.isAbandoned k with
    | true =>
      obtain ⟨-, -, hs, -⟩ := perform_abandoned hk he
      rw [dropAbandoned, List.filter_cons_of_neg (by simp [he]), after_cons, hs]
      exact ih hk
    | false =>
      rw [dropAbandoned, List.filter_cons_of_pos (by simp [he]), after_cons, after_cons]
      exact ih hk'

/-- Nor do they change what is answered to anything else. -/
theorem transcript_dropAbandoned {s : Session} {k : Nat} (hk : k < s.generation)
    (es : List Event) :
    s.transcript (dropAbandoned k es) = (s.transcript es).filter (!·.1.isAbandoned k) := by
  induction es generalizing s with
  | nil => rfl
  | cons e es ih =>
    have hk' : k < (s.perform e).2.generation :=
      Nat.lt_of_lt_of_le hk (s.generation_le_perform e)
    cases he : e.isAbandoned k with
    | true =>
      obtain ⟨-, -, hs, -⟩ := perform_abandoned hk he
      rw [dropAbandoned, List.filter_cons_of_neg (by simp [he]), transcript, hs,
        List.filter_cons_of_neg (by simp [he])]
      exact ih hk
    | false =>
      rw [dropAbandoned, List.filter_cons_of_pos (by simp [he]), transcript, transcript,
        List.filter_cons_of_pos (by simp [he])]
      exact congrArg _ (ih hk')

end Session

/-! ## 3. The same session in a later generation -/

/-- The ticket of a generation that many later. -/
def LoadTicket.offset (k : Nat) (t : LoadTicket) : LoadTicket :=
  { t with generation := t.generation + k }

/-- The ticket of a generation that many later. -/
def Ticket.offset {ρ : Type} (k : Nat) (t : Ticket ρ) : Ticket ρ :=
  { t with generation := t.generation + k }

/-- The event with another number for the generation of the ticket handed back. -/
def Event.renumber (f : Nat → Nat) : Event → Event
  | .finishLoad t reply => .finishLoad { t with generation := f t.generation } reply
  | .finishUnitFetch t reply => .finishUnitFetch { t with generation := f t.generation } reply
  | .finishSelect t reply => .finishSelect { t with generation := f t.generation } reply
  | .finishApply t reply => .finishApply { t with generation := f t.generation } reply
  | .finishApprove t reply => .finishApprove { t with generation := f t.generation } reply
  | e => e

/-- The event with a ticket of a generation that many later. -/
def Event.offset (k : Nat) : Event → Event := Event.renumber (· + k)

/-- The event with a ticket of a generation that many earlier. -/
def Event.rebase (k : Nat) : Event → Event := Event.renumber (· - k)

/-- The step that begins the selection of a version, in a generation that many later. -/
def SelectStep.offset (k : Nat) : SelectStep → SelectStep
  | .done selected => .done selected
  | .fetch t => .fetch (t.offset k)

/-- The response in a generation that many later, with some notifications queued before the
others. -/
def Response.offset (k : Nat) (queued : List Notification) : Response → Response
  | .loadBegun t => .loadBegun (t.offset k)
  | .fetchBegun result => .fetchBegun (result.map (Option.map (Ticket.offset k)))
  | .selectBegun result => .selectBegun (result.map (SelectStep.offset k))
  | .applyBegun result => .applyBegun (result.map (Ticket.offset k))
  | .approveBegun result => .approveBegun (result.map (Ticket.offset k))
  | .notified notifications => .notified (queued ++ notifications)
  | a => a

/-- What is left in the queue after an event that may read it. -/
def Event.queueAfter (queued : List Notification) : Event → List Notification
  | .takeNotifications => []
  | _ => queued

/-- What is left of the queue after some events. -/
def queueAfter (queued : List Notification) (es : List Event) : List Notification :=
  es.foldl Event.queueAfter queued

/-- Whether the event hands back a ticket of another generation than the session's. -/
def Event.IsStale (s : Session) (e : Event) : Prop :=
  ∃ g, e.generation? = some g ∧ g ≠ s.generation

namespace Session

/-- The session in a generation that many later, with some notifications queued before its own. -/
def offset (k : Nat) (queued : List Notification) (s : Session) : Session :=
  { s with generation := s.generation + k, notifications := queued ++ s.notifications }

section Offset

variable (k : Nat) (queued : List Notification) (s : Session)

/-- Announcing does not look at the notifications already there. -/
theorem offset_notify (severity : Severity) (message : String) :
    (s.offset k queued).notify severity message = (s.notify severity message).offset k queued := by
  rw [notify, notify, offset, offset]
  simp only [List.append_assoc]

theorem offset_announce (what : String) (e : ReviewError) :
    (s.offset k queued).announce what e = (s.announce what e).offset k queued := by
  rw [announce, announce]
  split
  · exact offset_notify ..
  · rfl

theorem offset_updateRerun (p : NodePath) (f : Node → Node) :
    (s.offset k queued).updateRerun p f = (s.updateRerun p f).map (offset k queued) := by
  have hout : (s.offset k queued).requireOutline = s.requireOutline := rfl
  rw [updateRerun, updateRerun, hout]
  cases s.requireOutline with
  | error e => rfl
  | ok o =>
    dsimp only
    cases o.rerun.replaceAt p f <;> rfl

theorem offset_finishLoad {t : LoadTicket} (ht : t.generation = s.generation)
    (reply : Outcome Outline) :
    (s.offset k queued).finishLoad (t.offset k) reply =
      ((s.finishLoad t reply).1, (s.finishLoad t reply).2.offset k queued) := by
  have ht' : (t.offset k).generation = (s.offset k queued).generation :=
    congrArg (· + k) ht
  rw [finishLoad, if_pos ht', finishLoad, if_pos ht]
  cases reply with
  | ok o => rfl
  | error e => exact congrArg (Prod.mk _) (offset_announce k queued { s with loading := false } ..)

theorem offset_toggle (p : NodePath) :
    (s.offset k queued).toggle p =
      ((s.toggle p).1.map (Option.map (Ticket.offset k)), (s.toggle p).2.offset k queued) := by
  have hnode : (s.offset k queued).requireNode p = s.requireNode p := rfl
  rw [toggle, toggle, hnode]
  cases s.requireNode p with
  | error e => rfl
  | ok n =>
    dsimp only
    have hexp : (s.offset k queued).expansion = s.expansion := rfl
    rw [hexp]
    split <;> rfl

theorem offset_beginUnitFetch (p : NodePath) :
    (s.offset k queued).beginUnitFetch p =
      ((s.beginUnitFetch p).1.map (Option.map (Ticket.offset k)),
        (s.beginUnitFetch p).2.offset k queued) := by
  have hnode : (s.offset k queued).requireNode p = s.requireNode p := rfl
  have hexp : (s.offset k queued).expansion = s.expansion := rfl
  rw [beginUnitFetch, beginUnitFetch, hnode]
  cases s.requireNode p with
  | error e => rfl
  | ok n =>
    dsimp only
    rw [hexp]
    split
    · split <;> rfl
    · rfl

/-- A ticket of the generation settles the same way in the later one. -/
theorem offset_settle {ρ : Type} {t : Ticket ρ} (ht : t.generation = s.generation)
    (a : Activity) :
    (s.offset k queued).settle a (t.offset k) =
      .ok ((s.setBusy a t.path false).offset k queued) :=
  settle_current (congrArg (· + k) ht) a

theorem offset_finishUnitFetch {t : Ticket UnitFetch} (ht : t.generation = s.generation)
    (reply : Outcome UnitComponents) :
    (s.offset k queued).finishUnitFetch (t.offset k) reply =
      ((s.finishUnitFetch t reply).1, (s.finishUnitFetch t reply).2.offset k queued) := by
  rw [finishUnitFetch, offset_settle k queued s ht, finishUnitFetch, settle_current ht]
  dsimp only
  have hmerge : ((s.setBusy .expand t.path false).offset k queued).mergeContent
      (t.offset k).path reply = (s.setBusy .expand t.path false).mergeContent t.path reply := rfl
  rw [hmerge]
  cases (s.setBusy .expand t.path false).mergeContent t.path reply with
  | ok m => rfl
  | error e =>
    exact congrArg (Prod.mk _) (offset_announce k queued
      { s.setBusy .expand t.path false with
        expansion := s.expansion.finishFetch t.path false } ..)

theorem offset_beginSelect (p : NodePath) (version : VersionId) :
    (s.offset k queued).beginSelect p version =
      ((s.beginSelect p version).1.map (SelectStep.offset k),
        (s.beginSelect p version).2.offset k queued) := by
  have hnode : (s.offset k queued).requireNode p = s.requireNode p := rfl
  have hidle : (s.offset k queued).ensureIdle .selectVersion p =
      s.ensureIdle .selectVersion p := rfl
  rw [beginSelect, beginSelect, hnode, hidle, offset_updateRerun]
  cases s.requireNode p with
  | error e => rfl
  | ok n =>
    dsimp only
    cases s.ensureIdle .selectVersion p with
    | error e => rfl
    | ok u =>
      dsimp only
      split
      · cases s.updateRerun p Node.revertPreview <;> rfl
      · rfl

theorem offset_finishSelect {t : Ticket VersionFetch} (ht : t.generation = s.generation)
    (reply : Outcome VersionPayload) :
    (s.offset k queued).finishSelect (t.offset k) reply =
      ((s.finishSelect t reply).1, (s.finishSelect t reply).2.offset k queued) := by
  rw [finishSelect, offset_settle k queued s ht, finishSelect, settle_current ht]
  dsimp only
  cases reply with
  | error e => exact congrArg (Prod.mk _) (offset_announce ..)
  | ok payload =>
    dsimp only
    rw [offset_updateRerun]
    have hpath : (t.offset k).path = t.path := rfl
    rw [hpath]
    cases (s.setBusy .selectVersion t.path false).updateRerun t.path
        (·.previewVersion payload.data) with
    | error e => rfl
    | ok s' =>
      have hnode : (s'.offset k queued).requireNode t.path = s'.requireNode t.path := rfl
      simp only [Except.map]
      rw [hnode]
      cases s'.requireNode t.path <;> rfl

theorem offset_beginApply (p : NodePath) :
    (s.offset k queued).beginApply p =
      ((s.beginApply p).1.map (Ticket.offset k), (s.beginApply p).2.offset k queued) := by
  have hnode : (s.offset k queued).requireNode p = s.requireNode p := rfl
  have hsel : (s.offset k queued).selection p = s.selection p := rfl
  have hidle : (s.offset k queued).ensureIdle .applyVersion p =
      s.ensureIdle .applyVersion p := rfl
  rw [beginApply, beginApply, hnode, hsel, hidle]
  cases s.requireNode p with
  | error e => rfl
  | ok n =>
    dsimp only
    cases (s.selection p).filter (!·.isPending) with
    | none => rfl
    | some selected =>
      dsimp only
      split
      · cases s.ensureIdle .applyVersion p <;> rfl
      · rfl

theorem offset_finishApply {t : Ticket VersionApply} (ht : t.generation = s.generation)
    (reply : Outcome AppliedVersion) :
    (s.offset k queued).finishApply (t.offset k) reply =
      ((s.finishApply t reply).1, (s.finishApply t reply).2.offset k queued) := by
  rw [finishApply, offset_settle k queued s ht, finishApply, settle_current ht]
  dsimp only
  cases reply with
  | error e => exact congrArg (Prod.mk _) (offset_announce ..)
  | ok applied =>
    dsimp only
    rw [offset_updateRerun]
    have hpath : (t.offset k).path = t.path := rfl
    rw [hpath]
    cases (s.setBusy .applyVersion t.path false).updateRerun t.path
        (·.commitApplied applied) with
    | error e => rfl
    | ok s' =>
      have hsel : (s'.offset k queued).selection t.path = s'.selection t.path := rfl
      simp only [Except.map]
      rw [hsel]
      cases s'.selection t.path <;> rfl

theorem offset_beginApprove (p : NodePath) :
    (s.offset k queued).beginApprove p =
      ((s.beginApprove p).1.map (Ticket.offset k), (s.beginApprove p).2.offset k queued) := by
  have hout : (s.offset k queued).requireOutline = s.requireOutline := rfl
  have hidle : (s.offset k queued).ensureIdle .approve p = s.ensureIdle .approve p := rfl
  rw [beginApprove, beginApprove, hout, hidle]
  cases s.requireOutline with
  | error e => rfl
  | ok o =>
    dsimp only
    cases s.ensureIdle .approve p with
    | error e => rfl
    | ok u =>
      dsimp only
      split
      · rfl
      · exact congrArg (Prod.mk _) (offset_notify ..)
      · rfl

theorem offset_finishApprove {t : Ticket ApprovalRequest} (ht : t.generation = s.generation)
    (reply : Outcome ApprovalPatch) :
    (s.offset k queued).finishApprove (t.offset k) reply =
      ((s.finishApprove t reply).1, (s.finishApprove t reply).2.offset k queued) := by
  rw [finishApprove, offset_settle k queued s ht, finishApprove, settle_current ht]
  dsimp only
  cases reply with
  | error e => exact congrArg (Prod.mk _) (offset_announce ..)
  | ok patch =>
    have hout : ((s.setBusy .approve t.path false).offset k queued).requireOutline =
        (s.setBusy .approve t.path false).requireOutline := rfl
    dsimp only
    rw [hout]
    cases (s.setBusy .approve t.path false).requireOutline with
    | error e => rfl
    | ok o =>
      dsimp only
      have hpath : (t.offset k).path = t.path := rfl
      rw [hpath]
      cases o.rerun.approve t.path patch <;> rfl

/-- **The session in the later generation does what the session does.**  The tickets it hands out
are of that generation, and who reads the notifications reads the queued ones first. -/
theorem perform_offset {e : Event} (h : ¬ e.IsStale s) :
    (s.offset k queued).perform (e.offset k) =
      ((s.perform e).1.offset k queued, (s.perform e).2.offset k (e.queueAfter queued)) := by
  have hcurrent : ∀ g, e.generation? = some g → g = s.generation := fun g hg =>
    Decidable.byContradiction fun hne => h ⟨g, hg, hne⟩
  cases e with
  | beginLoad rerunId =>
    have hload : (s.offset k queued).beginLoad rerunId =
        ((s.beginLoad rerunId).1.offset k, (s.beginLoad rerunId).2.offset k queued) := by
      simp only [beginLoad, offset, LoadTicket.offset, Nat.add_right_comm]
    exact congrArg (Prod.map Response.loadBegun id) hload
  | finishLoad t reply =>
    exact congrArg (Prod.map Response.loaded id)
      (offset_finishLoad k queued s (hcurrent _ rfl) reply)
  | toggle p => exact congrArg (Prod.map Response.fetchBegun id) (offset_toggle k queued s p)
  | beginUnitFetch p =>
    exact congrArg (Prod.map Response.fetchBegun id) (offset_beginUnitFetch k queued s p)
  | finishUnitFetch t reply =>
    exact congrArg (Prod.map Response.fetched id)
      (offset_finishUnitFetch k queued s (hcurrent _ rfl) reply)
  | toggleAll => rfl
  | beginSelect p version =>
    exact congrArg (Prod.map Response.selectBegun id) (offset_beginSelect k queued s p version)
  | finishSelect t reply =>
    exact congrArg (Prod.map Response.selected id)
      (offset_finishSelect k queued s (hcurrent _ rfl) reply)
  | beginApply p => exact congrArg (Prod.map Response.applyBegun id) (offset_beginApply k queued s p)
  | finishApply t reply =>
    exact congrArg (Prod.map Response.applied id)
      (offset_finishApply k queued s (hcurrent _ rfl) reply)
  | beginApprove p =>
    exact congrArg (Prod.map Response.approveBegun id) (offset_beginApprove k queued s p)
  | finishApprove t reply =>
    exact congrArg (Prod.map Response.approved id)
      (offset_finishApprove k queued s (hcurrent _ rfl) reply)
  | takeNotifications => rfl

end Offset

end Session

namespace Event

theorem generation?_renumber (f : Nat → Nat) (e : Event) :
    (e.renumber f).generation? = e.generation?.map f := by
  cases e <;> rfl

/-- A ticket that is not abandoned is of a later generation. -/
theorem lt_of_isAbandoned_eq_false {k g : Nat} {e : Event} (h : e.isAbandoned k = false)
    (hg : e.generation? = some g) : k < g := by
  rw [isAbandoned, hg, Option.any_some, decide_eq_false_iff_not] at h
  omega

/-- An event of a later generation comes from one counted from there. -/
theorem offset_rebase {k : Nat} {e : Event} (h : e.isAbandoned k = false) :
    (e.rebase k).offset k = e := by
  have hback : ∀ g, e.generation? = some g → g - k + k = g := fun g hg =>
    Nat.sub_add_cancel (Nat.le_of_lt (lt_of_isAbandoned_eq_false h hg))
  cases e with
  | finishLoad t reply => rw [rebase, renumber, offset, renumber, hback t.generation rfl]
  | finishUnitFetch t reply => rw [rebase, renumber, offset, renumber, hback t.generation rfl]
  | finishSelect t reply => rw [rebase, renumber, offset, renumber, hback t.generation rfl]
  | finishApply t reply => rw [rebase, renumber, offset, renumber, hback t.generation rfl]
  | finishApprove t reply => rw [rebase, renumber, offset, renumber, hback t.generation rfl]
  | _ => rfl

/-- Whether a ticket is of another generation is the same question in the later generation. -/
theorem isStale_offset {k : Nat} {queued : List Notification} {s : Session} {e : Event} :
    (e.offset k).IsStale (s.offset k queued) ↔ e.IsStale s := by
  rw [IsStale, IsStale, offset, generation?_renumber]
  have hgen : (s.offset k queued).generation = s.generation + k := rfl
  rw [hgen]
  constructor
  · rintro ⟨g, hg, hne⟩
    obtain ⟨g', hg', rfl⟩ := Option.map_eq_some_iff.mp hg
    exact ⟨g', hg', fun h => hne (congrArg (· + k) h)⟩
  · rintro ⟨g, hg, hne⟩
    refine ⟨g + k, by rw [hg]; rfl, fun h => hne ?_⟩
    exact Nat.add_right_cancel h

theorem isStale_rebase {k : Nat} {queued : List Notification} {s : Session} {e : Event}
    (h : e.isAbandoned k = false) : (e.rebase k).IsStale s ↔ e.IsStale (s.offset k queued) := by
  rw [← @isStale_offset k queued, offset_rebase h]

theorem queueAfter_rebase (k : Nat) (queued : List Notification) (e : Event) :
    (e.rebase k).queueAfter queued = e.queueAfter queued := by
  cases e <;> rfl

end Event

namespace Session

/-- A stale event has no effect. -/
theorem perform_of_isStale {s : Session} {e : Event} {g : Nat} (hg : e.generation? = some g)
    (hne : g ≠ s.generation) :
    (s.perform e).2 = s ∧ (s.perform e).1.failure? = some (.staleResponse g s.generation) := by
  obtain ⟨t, ht, rfl⟩ := Option.map_eq_some_iff.mp hg
  exact perform_stale ht hne

/-- An event that is not stale, in the session and in the one counted from a later generation. -/
theorem perform_rebase_of_not_isStale {k : Nat} {queued : List Notification} {s : Session}
    {e : Event} (h : e.isAbandoned k = false) (hstale : ¬ e.IsStale (s.offset k queued)) :
    (s.offset k queued).perform e =
      ((s.perform (e.rebase k)).1.offset k queued,
        (s.perform (e.rebase k)).2.offset k (e.queueAfter queued)) := by
  have := perform_offset k queued s (mt (Event.isStale_rebase h).mp hstale)
  rw [Event.offset_rebase h, Event.queueAfter_rebase] at this
  exact this

/-- What becomes of the two by any event. -/
theorem perform_rebase (k : Nat) (queued : List Notification) (s : Session) {e : Event}
    (h : e.isAbandoned k = false) :
    ((s.offset k queued).perform e).2 =
      (s.perform (e.rebase k)).2.offset k (e.queueAfter queued) := by
  by_cases hstale : e.IsStale (s.offset k queued)
  · obtain ⟨g, hg, hne⟩ := (Event.isStale_rebase h).mpr hstale
    obtain ⟨g', hg', hne'⟩ := hstale
    have hkeep : e.queueAfter queued = queued := by
      cases e <;> first | rfl | cases hg'
    rw [(perform_of_isStale hg' hne').1, (perform_of_isStale hg hne).1, hkeep]
  · rw [perform_rebase_of_not_isStale h hstale]

/-- Any number of events. -/
theorem after_rebase (k : Nat) (queued : List Notification) (s : Session) (es : List Event)
    (h : ∀ e ∈ es, e.isAbandoned k = false) :
    (s.offset k queued).after es =
      (s.after (es.map (Event.rebase k))).offset k (queueAfter queued es) := by
  induction es generalizing s queued with
  | nil => rfl
  | cons e es ih =>
    rw [after_cons, perform_rebase k queued s (h e (List.mem_cons_self ..))]
    exact ih _ _ fun e' he' => h e' (List.mem_cons_of_mem _ he')

/-! ## 4. A load is a fresh start -/

/-- Beginning to load is beginning to load in a new session, but for the number of the generation
and the notifications nobody has read. -/
theorem beginLoad_eq_offset (s : Session) (rerunId : String) :
    s.beginLoad rerunId =
      ((({} : Session).beginLoad rerunId).1.offset s.generation,
        (({} : Session).beginLoad rerunId).2.offset s.generation s.notifications) := by
  rw [beginLoad, beginLoad, LoadTicket.offset, offset]
  simp only [Nat.zero_add, Nat.add_comm 1, List.append_nil]

theorem isAbandoned_of_mem_dropAbandoned {k : Nat} {es : List Event} {e : Event}
    (h : e ∈ dropAbandoned k es) : e.isAbandoned k = false := by
  have := (List.mem_filter.mp h).2
  simpa using this

/-- **An abandoned pairing has no influence.**  A session has got to `s` by any history, begins to
load another pairing, and then `later` happens, which may hand back tickets from before the load at
any place and with any replies; `e` is what happens next.

* Tickets from before the load are those of generations up to `k`, and none since is.
* If `e` hands back one of them, it is refused, and the session stays as it is.
* Without those tickets everything else is answered the same, and the session is the same.
* The session is the one that a new session becomes by the same load and the same events, but for
  `k` and the notifications still queued at the load.
* If `e` is none of those tickets, it is answered the same in both, but for the same things. -/
theorem beginLoad_abandons (past later : List Event) (rerunId : String) (e : Event) :
    let s := ({} : Session).after past
    let k := s.generation
    let begun := (s.beginLoad rerunId).2
    let now := begun.after later
    let kept := dropAbandoned k later
    let anew := ({} : Session).beginLoad rerunId
    let fresh := anew.2.after (kept.map (Event.rebase k))
    let queued := queueAfter s.notifications kept
    ((∀ t ∈ ({} : Session).issued past, t.generation ≤ k) ∧
      k < (s.beginLoad rerunId).1.generation ∧ ∀ t ∈ begun.issued later, k < t.generation) ∧
    (e.isAbandoned k = true → ∃ g, e.generation? = some g ∧ (now.perform e).2 = now ∧
      (now.perform e).1.failure? = some (.staleResponse g now.generation)) ∧
    (begun.after kept = now ∧
      begun.transcript kept = (begun.transcript later).filter (!·.1.isAbandoned k)) ∧
    ((s.beginLoad rerunId).1 = anew.1.offset k ∧ now = fresh.offset k queued) ∧
    (e.isAbandoned k = false →
      (¬ e.IsStale now → (now.perform e).1 = (fresh.perform (e.rebase k)).1.offset k queued) ∧
      ∀ g, e.generation? = some g → g ≠ now.generation →
        (now.perform e).1.failure? = some (.staleResponse g now.generation) ∧
        (fresh.perform (e.rebase k)).1.failure? =
          some (.staleResponse (g - k) (now.generation - k))) := by
  intro s k begun now kept anew fresh queued
  have hbegun : k < begun.generation := Nat.lt_succ_self k
  have hnow : k < now.generation := Nat.lt_of_lt_of_le hbegun (begun.generation_le_after later)
  have hkept : begun.after kept = now := after_dropAbandoned hbegun later
  have hsame : now = fresh.offset k queued := by
    have hload : begun = anew.2.offset k s.notifications :=
      congrArg Prod.snd (s.beginLoad_eq_offset rerunId)
    rw [← hkept, hload]
    exact after_rebase _ _ _ _ fun e' he' => isAbandoned_of_mem_dropAbandoned he'
  refine ⟨⟨fun t ht => issued_le ht, hbegun, fun t ht => ?_⟩, perform_abandoned hnow,
    ⟨hkept, transcript_dropAbandoned hbegun later⟩,
    ⟨congrArg Prod.fst (s.beginLoad_eq_offset rerunId), hsame⟩, fun he => ⟨fun hcurrent => ?_,
      fun g hg hne => ⟨(perform_of_isStale hg hne).2, ?_⟩⟩⟩
  · exact Nat.lt_of_lt_of_le hbegun (issued_ge ht)
  · rw [hsame] at hcurrent ⊢
    rw [perform_rebase_of_not_isStale he hcurrent]
  · have hgen : now.generation = fresh.generation + k := congrArg Session.generation hsame
    have hback : now.generation - k = fresh.generation := by omega
    have hlt : k < g := Event.lt_of_isAbandoned_eq_false he hg
    have hg' : (e.rebase k).generation? = some (g - k) := by
      rw [Event.rebase, Event.generation?_renumber, hg]; rfl
    rw [hback]
    exact (perform_of_isStale hg' (by omega)).2

end Session

end CourseReview
