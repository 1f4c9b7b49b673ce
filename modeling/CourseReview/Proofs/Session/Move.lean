import CourseReview.Proofs.Outline.Edit
import CourseReview.Proofs.Session.Event

/-!
# What an event can do to a session

`Session.perform` spread out: one constructor of `Session.Move` for each way an event can end, with
what was checked on the way, the response, and the session after it (`Session.perform_move`).  Later
files argue by cases on a move and never open the operations again.
-/

namespace CourseReview

namespace Session

/-- The node of the translated course at a path, if there is an outline and the path leads
somewhere. -/
def nodeAt (s : Session) (p : NodePath) : Option Node :=
  s.outline.bind fun o => p.resolve o.rerun

theorem nodeAt_eq_some {s : Session} {p : NodePath} {n : Node} :
    s.nodeAt p = some n ↔ ∃ o, s.outline = some o ∧ p.resolve o.rerun = some n := by
  rw [nodeAt, Option.bind_eq_some_iff]

/-- Asking for an outline succeeds exactly when there is one. -/
theorem requireOutline_ok {s : Session} {o : Outline} :
    s.requireOutline = .ok o ↔ s.outline = some o := by
  rw [requireOutline]
  cases s.outline <;> simp

/-- Asking for a node succeeds exactly when the path leads to one. -/
theorem requireNode_ok {s : Session} {p : NodePath} {n : Node} :
    s.requireNode p = .ok n ↔ s.nodeAt p = some n := by
  rw [requireNode, requireOutline, nodeAt]
  cases s.outline with
  | none => simp
  | some o =>
    rw [Option.bind_some]
    dsimp only
    rw [NodePath.require]
    cases p.resolve o.rerun <;> simp

/-- An activity may begin exactly when it is idle. -/
theorem ensureIdle_ok {s : Session} {a : Activity} {p : NodePath} :
    s.ensureIdle a p = .ok () ↔ s.busy a p = false := by
  rw [ensureIdle]
  cases s.busy a p <;> simp

/-- Putting a new node in place is an update of the outline of the translated course. -/
theorem updateRerun_ok {s s' : Session} {p : NodePath} {f : Node → Node} :
    s.updateRerun p f = .ok s' ↔
      ∃ o r, s.outline = some o ∧ o.rerun.revise p (fun n => .renewed (f n)) = .ok r ∧
        s' = s.setRerun o r.tree := by
  rw [updateRerun, requireOutline]
  cases s.outline with
  | none => simp
  | some o =>
    dsimp only
    rw [Tree.replaceAt]
    cases hr : o.rerun.revise p (fun n => .renewed (f n)) <;>
      simp [Except.map, hr, eq_comm]

/-- An announcement touches the notifications only, and does not look at anything else. -/
theorem announce_eq (s : Session) (what : String) (e : ReviewError) :
    ∃ ns, ∀ s' : Session, s'.notifications = s.notifications →
      s'.announce what e = { s' with notifications := ns } := by
  refine ⟨(s.announce what e).notifications, fun s' hs' => ?_⟩
  rw [announce, announce]
  split
  · rw [notify, notify, hs']
  · rw [← hs']

/-! ## 1. Moves -/

/-- The ways an event can end. -/
inductive Move (s : Session) : Event → Response → Session → Prop where
  /-- A pairing is on its way; all of the one before is gone but the notifications. -/
  | loadBegun (rerunId : String) :
    Move s (.beginLoad rerunId) (.loadBegun ⟨s.generation + 1, rerunId⟩) (s.beginLoad rerunId).2
  /-- The pairing could not be loaded. -/
  | loadFailed {t : LoadTicket} {e : ReviewError} {ns : List Notification}
    (hcurrent : t.generation = s.generation)
    (hns : { s with loading := false }.announce loadName e =
      { s with loading := false, notifications := ns }) :
    Move s (.finishLoad t (.error e)) (.loaded (.error e))
      { s with loading := false, notifications := ns }
  /-- The pairing is there. -/
  | loaded {t : LoadTicket} {o : Outline} (hcurrent : t.generation = s.generation) :
    Move s (.finishLoad t (.ok o)) (.loaded (.ok o)) { s with loading := false, outline := some o }
  /-- A ticket of another generation. -/
  | stale {e : Event} {t : SomeTicket} {a : Response} (ht : e.ticket? = some t)
    (hstale : t.generation ≠ s.generation)
    (ha : a.failure? = some (.staleResponse t.generation s.generation)) : Move s e a s
  /-- Something that cannot begin, and leaves no trace. -/
  | refused {e : Event} {a : Response} {failure : ReviewError} (ht : e.ticket? = none)
    (ha : a.failure? = some failure) : Move s e a s
  /-- A unit whose content is there, or on its way, or that is no unit. -/
  | nothingToFetch (p : NodePath) : Move s (.beginUnitFetch p) (.fetchBegun (.ok none)) s
  /-- A part of the outline without anything to approve; the reviewer is told so. -/
  | nothingToApprove {p : NodePath} {path : String} :
    Move s (.beginApprove p) (.approveBegun (.error (.nothingToApprove path)))
      (s.notify .info s!"Nothing to approve under {p.text}")
  /-- A node is shown or hidden, and that is all. -/
  | toggled {p : NodePath} {n : Node} (hn : s.nodeAt p = some n)
    (hfetch : (s.expansion.toggle p (n.needsFetch p)).1 = false) :
    Move s (.toggle p) (.fetchBegun (.ok none))
      { s with expansion := (s.expansion.toggle p (n.needsFetch p)).2 }
  /-- All nodes are shown or hidden. -/
  | toggledAll :
    Move s .toggleAll (.shown s.expansion.toggleAll.globalVisibility)
      { s with expansion := s.expansion.toggleAll }
  /-- The reviewer reads the notifications. -/
  | notified : Move s .takeNotifications (.notified s.notifications) { s with notifications := [] }
  /-- A unit is shown for the first time, and its content fetched. -/
  | toggledToFetch {p : NodePath} {n : Node} (hn : s.nodeAt p = some n)
    (hfetch : (s.expansion.toggle p (n.needsFetch p)).1 = true) :
    Move s (.toggle p) (.fetchBegun (.ok (some ⟨s.generation, p, ⟨n.usageKey⟩⟩)))
      ({ s with expansion := (s.expansion.toggle p (n.needsFetch p)).2 }.setBusy .expand p true)
  /-- The content of a unit is fetched ahead. -/
  | fetchBegun {p : NodePath} {n : Node} (hn : s.nodeAt p = some n)
    (hneeds : n.needsFetch p = true) (hload : s.expansion.loadState p = .notFetched) :
    Move s (.beginUnitFetch p) (.fetchBegun (.ok (some ⟨s.generation, p, ⟨n.usageKey⟩⟩)))
      ({ s with expansion := (s.expansion.beginFetch p).2 }.setBusy .expand p true)
  /-- The payload of a version is asked for. -/
  | selectBegun {p : NodePath} {n : Node} {version : VersionId} (hn : s.nodeAt p = some n)
    (hidle : s.busy .selectVersion p = false) (hversion : version ≠ pendingVersion) :
    Move s (.beginSelect p version) (.selectBegun (.ok (.fetch ⟨s.generation, p, ⟨version⟩⟩)))
      (s.setBusy .selectVersion p true)
  /-- The node's own payload is put back at once. -/
  | reverted {p : NodePath} {o : Outline} {r : TreeRevision} (ho : s.outline = some o)
    (hidle : s.busy .selectVersion p = false)
    (hr : o.rerun.revise p Edit.revert.revision = .ok r) :
    Move s (.beginSelect p pendingVersion) (.selectBegun (.ok (.done .pending)))
      ((s.setRerun o r.tree).select p .pending)
  /-- The version selected is to be applied. -/
  | applyBegun {p : NodePath} {n : Node} {selected : Selection} (hn : s.nodeAt p = some n)
    (hselected : s.selection p = some selected) (hpending : selected.isPending = false)
    (henabled : n.applyEnabled selected.version = true)
    (hidle : s.busy .applyVersion p = false) :
    Move s (.beginApply p)
      (.applyBegun (.ok ⟨s.generation, p, ⟨n.usageKey, selected.version⟩⟩))
      (s.setBusy .applyVersion p true)
  /-- What is eligible below a node is to be approved. -/
  | approveBegun {p : NodePath} {n : Node} (hn : s.nodeAt p = some n)
    (hidle : s.busy .approve p = false) (hkeys : n.collectEligible ≠ []) :
    Move s (.beginApprove p) (.approveBegun (.ok ⟨s.generation, p, ⟨n.collectEligible⟩⟩))
      (s.setBusy .approve p true)
  /-- The content of a unit did not come, or could not be put in place. -/
  | fetchFailed {t : Ticket UnitFetch} {reply : Outcome UnitComponents} {e : ReviewError}
    {ns : List Notification} (hcurrent : t.generation = s.generation)
    (hfailed : s.mergeContent t.path reply = .error e)
    (hns : s.announce (Activity.expand.describe t.path) e = { s with notifications := ns }) :
    Move s (.finishUnitFetch t reply) (.fetched (.error e))
      { s.setBusy .expand t.path false with
        expansion := s.expansion.finishFetch t.path false
        notifications := ns }
  /-- The content of a unit is put in place. -/
  | fetched {t : Ticket UnitFetch} {components : UnitComponents} {o : Outline} {m : UnitMerge}
    (hcurrent : t.generation = s.generation) (ho : s.outline = some o)
    (hm : o.mergeUnit t.path components = .ok m) :
    Move s (.finishUnitFetch t (.ok components)) (.fetched (.ok m.hasEligible))
      { s.setBusy .expand t.path false with
        outline := some m.outline
        expansion := s.expansion.finishFetch t.path true }
  /-- The payload of a version did not come. -/
  | selectFailed {t : Ticket VersionFetch} {e : ReviewError} {ns : List Notification}
    (hcurrent : t.generation = s.generation)
    (hns : s.announce (Activity.selectVersion.describe t.path) e = { s with notifications := ns }) :
    Move s (.finishSelect t (.error e)) (.selected (.error e))
      { s.setBusy .selectVersion t.path false with notifications := ns }
  /-- The payload of a version is shown. -/
  | selected {t : Ticket VersionFetch} {payload : VersionPayload} {o : Outline} {r : TreeRevision}
    {n : Node} (hcurrent : t.generation = s.generation) (ho : s.outline = some o)
    (hr : o.rerun.revise t.path (Edit.preview payload.data).revision = .ok r)
    (hn : t.path.resolve r.tree = some n) :
    Move s (.finishSelect t (.ok payload))
      (.selected (.ok ⟨t.request.version, n.applyEnabled t.request.version⟩))
      (((s.setBusy .selectVersion t.path false).setRerun o r.tree).select t.path
        ⟨t.request.version, n.applyEnabled t.request.version⟩)
  /-- The version could not be applied. -/
  | applyFailed {t : Ticket VersionApply} {e : ReviewError} {ns : List Notification}
    (hcurrent : t.generation = s.generation)
    (hns : s.announce (Activity.applyVersion.describe t.path) e = { s with notifications := ns }) :
    Move s (.finishApply t (.error e)) (.applied (.error e))
      { s.setBusy .applyVersion t.path false with notifications := ns }
  /-- The version is applied. -/
  | applied {t : Ticket VersionApply} {applied : AppliedVersion} {o : Outline} {r : TreeRevision}
    {selection : NodePath → Option Selection} (hcurrent : t.generation = s.generation)
    (ho : s.outline = some o) (hr : o.rerun.revise t.path (Edit.commit applied).revision = .ok r)
    (hselection : ∀ q, selection q = if q = t.path then
      (s.selection q).map ({ · with applyEnabled := false }) else s.selection q) :
    Move s (.finishApply t (.ok applied)) (.applied (.ok ()))
      { (s.setBusy .applyVersion t.path false).setRerun o r.tree with selection }
  /-- The blocks could not be approved. -/
  | approveFailed {t : Ticket ApprovalRequest} {e : ReviewError} {ns : List Notification}
    (hcurrent : t.generation = s.generation)
    (hns : s.announce (Activity.approve.describe t.path) e = { s with notifications := ns }) :
    Move s (.finishApprove t (.error e)) (.approved (.error e))
      { s.setBusy .approve t.path false with notifications := ns }
  /-- The answers to an approval are folded in. -/
  | approved {t : Ticket ApprovalRequest} {patch : ApprovalPatch} {o : Outline} {r : TreeRevision}
    (hcurrent : t.generation = s.generation) (ho : s.outline = some o)
    (hr : o.rerun.revise t.path (Edit.approve patch).revision = .ok r) :
    Move s (.finishApprove t (.ok patch))
      (.approved (.ok (t.request.blockIds.countP (Keyed.has · patch))))
      ((s.setBusy .approve t.path false).setRerun o r.tree)
  /-- The node that a reply is for is gone. -/
  | selectLost {t : Ticket VersionFetch} {payload : VersionPayload} {e : ReviewError}
    (hcurrent : t.generation = s.generation) (hlost : s.nodeAt t.path = none) :
    Move s (.finishSelect t (.ok payload)) (.selected (.error e))
      (s.setBusy .selectVersion t.path false)
  | applyLost {t : Ticket VersionApply} {applied : AppliedVersion} {e : ReviewError}
    (hcurrent : t.generation = s.generation) (hlost : s.nodeAt t.path = none) :
    Move s (.finishApply t (.ok applied)) (.applied (.error e))
      (s.setBusy .applyVersion t.path false)
  | approveLost {t : Ticket ApprovalRequest} {patch : ApprovalPatch} {e : ReviewError}
    (hcurrent : t.generation = s.generation) (hlost : s.nodeAt t.path = none) :
    Move s (.finishApprove t (.ok patch)) (.approved (.error e))
      (s.setBusy .approve t.path false)

/-! ## 2. Every event is one of them -/

section Cases

variable (s : Session)

theorem move_finishLoad (t : LoadTicket) (reply : Outcome Outline) :
    Move s (.finishLoad t reply) (.loaded (s.finishLoad t reply).1) (s.finishLoad t reply).2 := by
  by_cases h : t.generation = s.generation
  · rw [finishLoad, if_pos h]
    cases reply with
    | error e =>
      obtain ⟨ns, hns⟩ := s.announce_eq loadName e
      have hns := hns { s with loading := false } rfl
      simp only [hns]
      exact .loadFailed h hns
    | ok o => exact .loaded h
  · rw [finishLoad_stale h]
    exact .stale rfl h rfl

theorem move_toggle (p : NodePath) :
    Move s (.toggle p) (.fetchBegun (s.toggle p).1) (s.toggle p).2 := by
  rw [toggle]
  cases hn : s.requireNode p with
  | error e => exact .refused rfl rfl
  | ok n =>
    have hn := requireNode_ok.mp hn
    dsimp only
    cases hfetch : (s.expansion.toggle p (n.needsFetch p)).1 with
    | false =>
      have hx : s.expansion.toggle p (n.needsFetch p) =
          (false, (s.expansion.toggle p (n.needsFetch p)).2) := Prod.ext hfetch rfl
      rw [hx]; exact .toggled hn hfetch
    | true =>
      have hx : s.expansion.toggle p (n.needsFetch p) =
          (true, (s.expansion.toggle p (n.needsFetch p)).2) := Prod.ext hfetch rfl
      rw [hx]; exact .toggledToFetch hn hfetch

theorem move_beginUnitFetch (p : NodePath) :
    Move s (.beginUnitFetch p) (.fetchBegun (s.beginUnitFetch p).1) (s.beginUnitFetch p).2 := by
  rw [beginUnitFetch]
  cases hn : s.requireNode p with
  | error e => exact .refused rfl rfl
  | ok n =>
    have hn := requireNode_ok.mp hn
    cases hneeds : n.needsFetch p with
    | false => simp only [hneeds]; exact .nothingToFetch p
    | true =>
      by_cases hload : s.expansion.loadState p = .notFetched
      · have h := Move.fetchBegun hn hneeds hload
        simp only [hneeds, if_true]
        rw [Expansion.beginFetch, if_pos hload] at h ⊢
        exact h
      · simp only [hneeds, if_true]
        rw [Expansion.beginFetch, if_neg hload]
        exact .nothingToFetch p

theorem move_finishUnitFetch (t : Ticket UnitFetch) (reply : Outcome UnitComponents) :
    Move s (.finishUnitFetch t reply) (.fetched (s.finishUnitFetch t reply).1)
      (s.finishUnitFetch t reply).2 := by
  rw [finishUnitFetch]
  by_cases h : t.generation = s.generation
  · rw [settle_current h]
    dsimp only
    have hmerge : (s.setBusy .expand t.path false).mergeContent t.path reply =
        s.mergeContent t.path reply := rfl
    rw [hmerge]
    cases hm : s.mergeContent t.path reply with
    | error e =>
      obtain ⟨ns, hns⟩ := s.announce_eq (Activity.expand.describe t.path) e
      have hfailed := Move.fetchFailed h hm (hns s rfl)
      rw [← hns { s.setBusy .expand t.path false with
        expansion := s.expansion.finishFetch t.path false } rfl] at hfailed
      exact hfailed
    | ok m =>
      cases reply with
      | error e => rw [mergeContent] at hm; cases hm
      | ok components =>
        rw [mergeContent] at hm
        cases ho : s.requireOutline with
        | error e => simp only [ho] at hm; cases hm
        | ok o =>
          simp only [ho] at hm
          exact .fetched h (requireOutline_ok.mp ho) hm
  · rw [settle_stale h]
    exact .stale rfl h rfl

theorem move_beginSelect (p : NodePath) (version : VersionId) :
    Move s (.beginSelect p version) (.selectBegun (s.beginSelect p version).1)
      (s.beginSelect p version).2 := by
  rw [beginSelect]
  cases hn : s.requireNode p with
  | error e => exact .refused rfl rfl
  | ok n =>
    have hn := requireNode_ok.mp hn
    dsimp only
    cases hidle : s.ensureIdle .selectVersion p with
    | error e => exact .refused rfl rfl
    | ok u =>
      have hidle := ensureIdle_ok.mp hidle
      dsimp only
      by_cases hv : version = pendingVersion
      · subst hv
        rw [if_pos rfl]
        cases hs : s.updateRerun p Node.revertPreview with
        | error e => exact .refused rfl rfl
        | ok s' =>
          obtain ⟨o, r, ho, hr, rfl⟩ := updateRerun_ok.mp hs
          exact .reverted ho hidle hr
      · rw [if_neg hv]
        exact .selectBegun hn hidle hv

/-- A node that can be asked for can be put in place. -/
theorem exists_updateRerun {n : Node} {p : NodePath} (hn : s.nodeAt p = some n) (f : Node → Node) :
    ∃ s', s.updateRerun p f = .ok s' := by
  obtain ⟨o, ho, hres⟩ := nodeAt_eq_some.mp hn
  obtain ⟨r, hr⟩ := Tree.exists_revise_of_resolve hres fun n => .renewed (f n)
  exact ⟨_, updateRerun_ok.mpr ⟨o, r, ho, hr, rfl⟩⟩

theorem nodeAt_eq_none_of_updateRerun {p : NodePath} {f : Node → Node} {e : ReviewError}
    (h : s.updateRerun p f = .error e) : s.nodeAt p = none := by
  cases hn : s.nodeAt p with
  | none => rfl
  | some n =>
    obtain ⟨s', hs'⟩ := exists_updateRerun s hn f
    rw [hs'] at h; cases h

theorem move_finishSelect (t : Ticket VersionFetch) (reply : Outcome VersionPayload) :
    Move s (.finishSelect t reply) (.selected (s.finishSelect t reply).1)
      (s.finishSelect t reply).2 := by
  rw [finishSelect]
  by_cases h : t.generation = s.generation
  · rw [settle_current h]
    dsimp only
    cases reply with
    | error e =>
      obtain ⟨ns, hns⟩ := s.announce_eq (Activity.selectVersion.describe t.path) e
      dsimp only
      rw [hns (s.setBusy .selectVersion t.path false) rfl]
      exact .selectFailed h (hns s rfl)
    | ok payload =>
      dsimp only
      cases hs : (s.setBusy .selectVersion t.path false).updateRerun t.path
          (·.previewVersion payload.data) with
      | error e => exact .selectLost h (nodeAt_eq_none_of_updateRerun (s.setBusy ..) hs)
      | ok s' =>
        obtain ⟨o, r, ho, hr, rfl⟩ := updateRerun_ok.mp hs
        -- the node just put in place is there, so asking for it cannot fail
        dsimp only
        obtain ⟨n, -, hn⟩ := Tree.resolve_revise_self hr
        have hnode := requireNode_ok.mpr
          (show ((s.setBusy .selectVersion t.path false).setRerun o r.tree).nodeAt t.path = some _
            from hn)
        rw [hnode]
        exact .selected h ho hr hn
  · rw [settle_stale h]
    exact .stale rfl h rfl

theorem move_beginApply (p : NodePath) :
    Move s (.beginApply p) (.applyBegun (s.beginApply p).1) (s.beginApply p).2 := by
  rw [beginApply]
  cases hn : s.requireNode p with
  | error e => exact .refused rfl rfl
  | ok n =>
    have hn := requireNode_ok.mp hn
    dsimp only
    cases hsel : (s.selection p).filter (!·.isPending) with
    | none => exact .refused rfl rfl
    | some selected =>
      obtain ⟨hselected, hpending⟩ := Option.filter_eq_some_iff.mp hsel
      dsimp only
      cases henabled : n.applyEnabled selected.version with
      | false => exact .refused rfl rfl
      | true =>
        rw [if_pos rfl]
        cases hidle : s.ensureIdle .applyVersion p with
        | error e => exact .refused rfl rfl
        | ok u =>
          exact .applyBegun hn hselected (by simpa using hpending) henabled
            (ensureIdle_ok.mp hidle)

theorem move_finishApply (t : Ticket VersionApply) (reply : Outcome AppliedVersion) :
    Move s (.finishApply t reply) (.applied (s.finishApply t reply).1)
      (s.finishApply t reply).2 := by
  rw [finishApply]
  by_cases h : t.generation = s.generation
  · rw [settle_current h]
    dsimp only
    cases reply with
    | error e =>
      obtain ⟨ns, hns⟩ := s.announce_eq (Activity.applyVersion.describe t.path) e
      dsimp only
      rw [hns (s.setBusy .applyVersion t.path false) rfl]
      exact .applyFailed h (hns s rfl)
    | ok applied =>
      dsimp only
      cases hs : (s.setBusy .applyVersion t.path false).updateRerun t.path
          (·.commitApplied applied) with
      | error e => exact .applyLost h (nodeAt_eq_none_of_updateRerun (s.setBusy ..) hs)
      | ok s' =>
        obtain ⟨o, r, ho, hr, rfl⟩ := updateRerun_ok.mp hs
        have hsel : ((s.setBusy .applyVersion t.path false).setRerun o r.tree).selection t.path =
            s.selection t.path := rfl
        dsimp only
        rw [hsel]
        cases hsel : s.selection t.path with
        | none =>
          refine .applied (o := o) h ho hr fun q => ?_
          by_cases hq : q = t.path
          · rw [if_pos hq, hq, hsel]; exact hsel
          · rw [if_neg hq]; rfl
        | some selected =>
          refine .applied (o := o) h ho hr fun q => ?_
          by_cases hq : q = t.path
          · rw [if_pos hq, if_pos hq, hq, hsel]; rfl
          · rw [if_neg hq, if_neg hq]; rfl
  · rw [settle_stale h]
    exact .stale rfl h rfl

theorem move_beginApprove (p : NodePath) :
    Move s (.beginApprove p) (.approveBegun (s.beginApprove p).1) (s.beginApprove p).2 := by
  rw [beginApprove]
  cases ho : s.requireOutline with
  | error e => exact .refused rfl rfl
  | ok o =>
    dsimp only
    cases hidle : s.ensureIdle .approve p with
    | error e => exact .refused rfl rfl
    | ok u =>
      dsimp only
      cases hplan : o.rerun.planApproval p with
      | error e =>
        cases e with
        | nothingToApprove path => exact .nothingToApprove
        | _ => exact .refused rfl rfl
      | ok keys =>
        rw [Tree.planApproval, NodePath.require] at hplan
        cases hn : p.resolve o.rerun with
        | none => simp only [hn] at hplan; cases hplan
        | some n =>
          simp only [hn] at hplan
          cases hkeys : n.collectEligible with
          | nil => rw [hkeys] at hplan; cases hplan
          | cons key rest =>
            have hne : n.collectEligible ≠ [] := by rw [hkeys]; exact List.cons_ne_nil _ _
            rw [if_neg (by rw [hkeys]; exact Bool.false_ne_true)] at hplan
            obtain rfl := Except.ok.inj hplan
            exact .approveBegun (nodeAt_eq_some.mpr ⟨o, requireOutline_ok.mp ho, hn⟩)
              (ensureIdle_ok.mp hidle) hne

theorem move_finishApprove (t : Ticket ApprovalRequest) (reply : Outcome ApprovalPatch) :
    Move s (.finishApprove t reply) (.approved (s.finishApprove t reply).1)
      (s.finishApprove t reply).2 := by
  rw [finishApprove]
  by_cases h : t.generation = s.generation
  · rw [settle_current h]
    dsimp only
    cases reply with
    | error e =>
      obtain ⟨ns, hns⟩ := s.announce_eq (Activity.approve.describe t.path) e
      dsimp only
      rw [hns (s.setBusy .approve t.path false) rfl]
      exact .approveFailed h (hns s rfl)
    | ok patch =>
      have hout : (s.setBusy .approve t.path false).requireOutline = s.requireOutline := rfl
      dsimp only
      rw [hout]
      cases ho : s.requireOutline with
      | error e =>
        refine .approveLost h ?_
        cases hs : s.outline with
        | none => rw [nodeAt, hs]; rfl
        | some o => rw [requireOutline_ok.mpr hs] at ho; cases ho
      | ok o =>
        have ho := requireOutline_ok.mp ho
        dsimp only
        rw [Tree.approve]
        cases hr : o.rerun.revise t.path (Node.foldApproval patch) with
        | error e =>
          refine .approveLost h ?_
          cases hn : s.nodeAt t.path with
          | none => rfl
          | some n =>
            obtain ⟨o', ho', hn⟩ := nodeAt_eq_some.mp hn
            rw [ho] at ho'
            obtain rfl := Option.some.inj ho'
            obtain ⟨r, hr'⟩ := Tree.exists_revise_of_resolve hn (Node.foldApproval patch)
            rw [hr'] at hr; cases hr
        | ok r => exact .approved h ho hr
  · rw [settle_stale h]
    exact .stale rfl h rfl

end Cases

/-- **Every event ends in one of the ways listed.** -/
theorem perform_move (s : Session) (e : Event) : Move s e (s.perform e).1 (s.perform e).2 := by
  cases e with
  | beginLoad rerunId => exact .loadBegun rerunId
  | finishLoad t reply => exact s.move_finishLoad t reply
  | toggle p => exact s.move_toggle p
  | beginUnitFetch p => exact s.move_beginUnitFetch p
  | finishUnitFetch t reply => exact s.move_finishUnitFetch t reply
  | toggleAll => exact .toggledAll
  | beginSelect p version => exact s.move_beginSelect p version
  | finishSelect t reply => exact s.move_finishSelect t reply
  | beginApply p => exact s.move_beginApply p
  | finishApply t reply => exact s.move_finishApply t reply
  | beginApprove p => exact s.move_beginApprove p
  | finishApprove t reply => exact s.move_finishApprove t reply
  | takeNotifications => exact .notified

end Session

end CourseReview
