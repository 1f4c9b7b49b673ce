import CourseReview.Proofs.Session.Fetches
import CourseReview.Proofs.Session.Originals
import Mathlib.Data.List.Forall2

/-!
# What is refused

The reviewer asks for something about a path: to show a node, to fetch, select, apply or approve.
Each of these looks at the session first, in an order of its own, and may refuse.

`Session.Refuses` lists what a session refuses, with the reason given.  A request fails with a reason
exactly when it is refused for it, and a refusal leaves no trace in the session; only of one, that
there is nothing to approve, the reviewer is told as well (`Session.refused_without_trace`).  So
requests that are refused can be repeated and mixed at will (`Session.after_refused`).
-/

namespace CourseReview

/-- The path that the reviewer asks something about. -/
def Event.asked? : Event → Option NodePath
  | .toggle p => some p
  | .beginUnitFetch p => some p
  | .beginSelect p _ => some p
  | .beginApply p => some p
  | .beginApprove p => some p
  | _ => none

/-- The message that the reviewer is left with when something is refused. -/
def ReviewError.told? (f : ReviewError) : Option Notification :=
  match f with
  | .nothingToApprove _ => some ⟨.info, f.message⟩
  | _ => none

theorem failure?_eq_some {α : Type} {result : Outcome α} {f : ReviewError} :
    failure? result = some f ↔ result = .error f := by
  cases result <;> simp [failure?]

namespace Session

variable {s : Session} {e : Event} {p : NodePath} {f : ReviewError}

/-! ## 1. Reasons -/

/-- What a session refuses, and why. -/
inductive Refuses (s : Session) : Event → ReviewError → Prop where
  | notLoaded {e : Event} {p : NodePath} (he : e.asked? = some p) (ho : s.outline = none) :
    Refuses s e .notLoaded
  /-- An approval that is under way is noticed before a node that is missing. -/
  | nodeNotFound {e : Event} {p : NodePath} {o : Outline} (he : e.asked? = some p)
    (ho : s.outline = some o) (hn : p.resolve o.rerun = none)
    (hidle : e = .beginApprove p → s.busy .approve p = false) :
    Refuses s e (.nodeNotFound p.text)
  | selecting {p : NodePath} {n : Node} (version : VersionId) (hn : s.nodeAt p = some n)
    (hbusy : s.busy .selectVersion p = true) :
    Refuses s (.beginSelect p version) (.busy Activity.selectVersion.name p.text)
  /-- Nothing is selected, or the translation without a version. -/
  | noSelection {p : NodePath} {n : Node} (hn : s.nodeAt p = some n)
    (hnone : ∀ selected, s.selection p = some selected → selected.isPending = true) :
    Refuses s (.beginApply p) (.noSelection p.text)
  | alreadyApplied {p : NodePath} {n : Node} {selected : Selection} (hn : s.nodeAt p = some n)
    (hselected : s.selection p = some selected) (hpending : selected.isPending = false)
    (hdisabled : n.applyEnabled selected.version = false) :
    Refuses s (.beginApply p) (.invalid (.alreadyApplied selected.version p.text))
  | applying {p : NodePath} {n : Node} {selected : Selection} (hn : s.nodeAt p = some n)
    (hselected : s.selection p = some selected) (hpending : selected.isPending = false)
    (henabled : n.applyEnabled selected.version = true) (hbusy : s.busy .applyVersion p = true) :
    Refuses s (.beginApply p) (.busy Activity.applyVersion.name p.text)
  | approving {p : NodePath} {o : Outline} (ho : s.outline = some o)
    (hbusy : s.busy .approve p = true) :
    Refuses s (.beginApprove p) (.busy Activity.approve.name p.text)
  | nothingToApprove {p : NodePath} {n : Node} (hn : s.nodeAt p = some n)
    (hidle : s.busy .approve p = false) (hnone : n.collectEligible = []) :
    Refuses s (.beginApprove p) (.nothingToApprove p.text)

/-- The session after something is refused. -/
def refused (s : Session) (f : ReviewError) : Session :=
  { s with notifications := s.notifications ++ f.told?.toList }

/-- A refusal that the reviewer is not told of leaves the session as it is. -/
theorem refused_eq_self (h : f.told? = none) : s.refused f = s := by
  rw [refused, h, Option.toList_none, List.append_nil]

/-! ## 2. The checks -/

/-- There is no outline to ask for exactly when none is loaded. -/
theorem requireOutline_error : s.requireOutline = .error f ↔ s.outline = none ∧ f = .notLoaded := by
  rw [requireOutline]
  cases s.outline <;> simp [eq_comm]

/-- There is no node to ask for exactly when no outline is loaded or the path leads nowhere. -/
theorem requireNode_error : s.requireNode p = .error f ↔
    s.outline = none ∧ f = .notLoaded ∨
      ∃ o, s.outline = some o ∧ p.resolve o.rerun = none ∧ f = .nodeNotFound p.text := by
  rw [requireNode, requireOutline]
  cases s.outline with
  | none => simp [eq_comm]
  | some o =>
    dsimp only
    rw [NodePath.require]
    cases h : p.resolve o.rerun <;> simp [h, eq_comm]

/-- An activity may not begin exactly when it is under way. -/
theorem ensureIdle_error {a : Activity} : s.ensureIdle a p = .error f ↔
    s.busy a p = true ∧ f = .busy a.name p.text := by
  rw [ensureIdle]
  cases s.busy a p <;> simp [eq_comm]

/-- There is a version to apply exactly when one is selected, other than the translation without a
version. -/
theorem filter_selection_eq_some {selected : Selection} :
    (s.selection p).filter (!·.isPending) = some selected ↔
      s.selection p = some selected ∧ selected.isPending = false := by
  rw [Option.filter_eq_some_iff, Bool.not_eq_true']

theorem filter_selection_eq_none : (s.selection p).filter (!·.isPending) = none ↔
    ∀ selected, s.selection p = some selected → selected.isPending = true := by
  rw [Option.filter_eq_none_iff]
  simp

/-- There is nothing to plan for exactly when the path leads nowhere or nothing below it is
eligible. -/
theorem planApproval_error {t : Tree} : t.planApproval p = .error f ↔
    p.resolve t = none ∧ f = .nodeNotFound p.text ∨
      ∃ n, p.resolve t = some n ∧ n.collectEligible = [] ∧ f = .nothingToApprove p.text := by
  cases hn : p.resolve t with
  | none =>
    rw [Tree.planApproval, NodePath.require, hn]
    simp [eq_comm (a := f)]
  | some n =>
    rw [Tree.planApproval_eq hn]
    cases hkeys : n.collectEligible <;> simp [hkeys, eq_comm (a := f)]

/-! ## 3. What fails is refused -/

theorem refuses_of_requireNode (he : e.asked? = some p) (hne : e ≠ .beginApprove p)
    (h : s.requireNode p = .error f) : s.Refuses e f := by
  obtain ⟨ho, rfl⟩ | ⟨o, ho, hn, rfl⟩ := requireNode_error.mp h
  · exact .notLoaded he ho
  · exact .nodeNotFound he ho hn fun h => absurd h hne

theorem refuses_of_toggle (h : (s.toggle p).1 = .error f) : s.Refuses (.toggle p) f := by
  unfold toggle at h
  split at h
  · rename_i hn
    obtain rfl := Except.error.inj h
    exact refuses_of_requireNode rfl nofun hn
  · dsimp only at h
    split at h <;> cases h

theorem refuses_of_beginUnitFetch (h : (s.beginUnitFetch p).1 = .error f) :
    s.Refuses (.beginUnitFetch p) f := by
  unfold beginUnitFetch at h
  split at h
  · rename_i hn
    obtain rfl := Except.error.inj h
    exact refuses_of_requireNode rfl nofun hn
  · split at h
    · split at h <;> cases h
    · cases h

theorem refuses_of_beginSelect {version : VersionId} (h : (s.beginSelect p version).1 = .error f) :
    s.Refuses (.beginSelect p version) f := by
  unfold beginSelect at h
  split at h
  · rename_i hn
    obtain rfl := Except.error.inj h
    exact refuses_of_requireNode rfl nofun hn
  · rename_i n hn
    have hn := requireNode_ok.mp hn
    split at h
    · rename_i hidle
      obtain rfl := Except.error.inj h
      obtain ⟨hbusy, rfl⟩ := ensureIdle_error.mp hidle
      exact .selecting version hn hbusy
    · split at h
      · -- putting back the payload of a node that is there cannot fail
        obtain ⟨s', hs'⟩ := exists_updateRerun s hn Node.revertPreview
        rw [hs'] at h
        cases h
      · cases h

theorem refuses_of_beginApply (h : (s.beginApply p).1 = .error f) : s.Refuses (.beginApply p) f := by
  unfold beginApply at h
  split at h
  · rename_i hn
    obtain rfl := Except.error.inj h
    exact refuses_of_requireNode rfl nofun hn
  · rename_i n hn
    have hn := requireNode_ok.mp hn
    split at h
    · rename_i hnone
      obtain rfl := Except.error.inj h
      exact .noSelection hn (filter_selection_eq_none.mp hnone)
    · rename_i selected hselected
      obtain ⟨hselected, hpending⟩ := filter_selection_eq_some.mp hselected
      split at h
      · rename_i henabled
        split at h
        · rename_i hidle
          obtain rfl := Except.error.inj h
          obtain ⟨hbusy, rfl⟩ := ensureIdle_error.mp hidle
          exact .applying hn hselected hpending henabled hbusy
        · cases h
      · rename_i hdisabled
        obtain rfl := Except.error.inj h
        exact .alreadyApplied hn hselected hpending (Bool.not_eq_true _ ▸ hdisabled)

theorem refuses_of_beginApprove (h : (s.beginApprove p).1 = .error f) :
    s.Refuses (.beginApprove p) f := by
  unfold beginApprove at h
  split at h
  · rename_i ho
    obtain rfl := Except.error.inj h
    obtain ⟨hnone, rfl⟩ := requireOutline_error.mp ho
    exact .notLoaded rfl hnone
  · rename_i o ho
    have ho := requireOutline_ok.mp ho
    split at h
    · rename_i hidle
      obtain rfl := Except.error.inj h
      obtain ⟨hbusy, rfl⟩ := ensureIdle_error.mp hidle
      exact .approving ho hbusy
    · rename_i hidle
      have hidle := ensureIdle_ok.mp hidle
      have hplan : o.rerun.planApproval p = .error f := by
        split at h
        · cases h
        · rename_i hplan
          obtain rfl := Except.error.inj h
          exact hplan
        · rename_i hplan
          obtain rfl := Except.error.inj h
          exact hplan
      obtain ⟨hn, rfl⟩ | ⟨n, hn, hnone, rfl⟩ := planApproval_error.mp hplan
      · exact .nodeNotFound rfl ho hn fun _ => hidle
      · exact .nothingToApprove (nodeAt_eq_some.mpr ⟨o, ho, hn⟩) hidle hnone

/-- What fails is refused, for the reason given. -/
theorem refuses_of_failure (he : e.asked? = some p) (h : (s.perform e).1.failure? = some f) :
    s.Refuses e f := by
  cases e with
  | toggle p => exact refuses_of_toggle (failure?_eq_some.mp h)
  | beginUnitFetch p => exact refuses_of_beginUnitFetch (failure?_eq_some.mp h)
  | beginSelect p version => exact refuses_of_beginSelect (failure?_eq_some.mp h)
  | beginApply p => exact refuses_of_beginApply (failure?_eq_some.mp h)
  | beginApprove p => exact refuses_of_beginApprove (failure?_eq_some.mp h)
  | _ => cases he

/-! ## 4. What is refused fails, and leaves no trace -/

/-- Without a node to ask about nothing begins, except that an approval looks at itself first. -/
theorem perform_of_requireNode (he : e.asked? = some p) (hne : e ≠ .beginApprove p)
    (h : s.requireNode p = .error f) : (s.perform e).1.failure? = some f ∧ (s.perform e).2 = s := by
  cases e with
  | beginApprove q => exact absurd (congrArg _ (Option.some.inj he)) hne
  | toggle q =>
    obtain rfl := Option.some.inj he
    rw [perform, toggle, h]; exact ⟨rfl, rfl⟩
  | beginUnitFetch q =>
    obtain rfl := Option.some.inj he
    rw [perform, beginUnitFetch, h]; exact ⟨rfl, rfl⟩
  | beginSelect q version =>
    obtain rfl := Option.some.inj he
    rw [perform, beginSelect, h]; exact ⟨rfl, rfl⟩
  | beginApply q =>
    obtain rfl := Option.some.inj he
    rw [perform, beginApply, h]; exact ⟨rfl, rfl⟩
  | _ => cases he

/-- What is refused fails for the reason given, and changes nothing but what the reviewer is told. -/
theorem Refuses.perform (h : s.Refuses e f) :
    (s.perform e).1.failure? = some f ∧ (s.perform e).2 = s.refused f := by
  cases h with
  | @notLoaded _ p he ho =>
    rw [refused_eq_self rfl]
    by_cases happrove : e = .beginApprove p
    · subst happrove
      rw [Session.perform, beginApprove, requireOutline_error.mpr ⟨ho, rfl⟩]
      exact ⟨rfl, rfl⟩
    · exact perform_of_requireNode he happrove (requireNode_error.mpr (.inl ⟨ho, rfl⟩))
  | @nodeNotFound _ p o he ho hn hidle =>
    rw [refused_eq_self rfl]
    by_cases happrove : e = .beginApprove p
    · subst happrove
      rw [Session.perform, beginApprove, requireOutline_ok.mpr ho]
      simp only [ensureIdle_ok.mpr (hidle rfl), planApproval_error.mpr (.inl ⟨hn, rfl⟩)]
      exact ⟨rfl, rfl⟩
    · exact perform_of_requireNode he happrove (requireNode_error.mpr (.inr ⟨o, ho, hn, rfl⟩))
  | selecting version hn hbusy =>
    rw [refused_eq_self rfl, Session.perform, beginSelect, requireNode_ok.mpr hn]
    simp only [ensureIdle_error.mpr ⟨hbusy, rfl⟩]
    exact ⟨rfl, rfl⟩
  | noSelection hn hnone =>
    rw [refused_eq_self rfl, Session.perform, beginApply, requireNode_ok.mpr hn]
    simp only [filter_selection_eq_none.mpr hnone]
    exact ⟨rfl, rfl⟩
  | alreadyApplied hn hselected hpending hdisabled =>
    rw [refused_eq_self rfl, Session.perform, beginApply, requireNode_ok.mpr hn]
    simp only [filter_selection_eq_some.mpr ⟨hselected, hpending⟩, hdisabled]
    exact ⟨rfl, rfl⟩
  | applying hn hselected hpending henabled hbusy =>
    rw [refused_eq_self rfl, Session.perform, beginApply, requireNode_ok.mpr hn]
    simp only [filter_selection_eq_some.mpr ⟨hselected, hpending⟩, henabled,
      ensureIdle_error.mpr ⟨hbusy, rfl⟩]
    exact ⟨rfl, rfl⟩
  | approving ho hbusy =>
    rw [refused_eq_self rfl, Session.perform, beginApprove, requireOutline_ok.mpr ho]
    simp only [ensureIdle_error.mpr ⟨hbusy, rfl⟩]
    exact ⟨rfl, rfl⟩
  | nothingToApprove hn hidle hnone =>
    obtain ⟨o, ho, hn⟩ := nodeAt_eq_some.mp hn
    rw [Session.perform, beginApprove, requireOutline_ok.mpr ho]
    simp only [ensureIdle_ok.mpr hidle, planApproval_error.mpr (.inr ⟨_, hn, hnone, rfl⟩)]
    exact ⟨rfl, rfl⟩

/-! ## 5. Requests that come to nothing -/

/-- What the reviewer has been told plays no part in what is refused. -/
theorem Refuses.of_notifications (h : s.Refuses e f) (ns : List Notification) :
    { s with notifications := ns }.Refuses e f := by
  cases h with
  | notLoaded he ho => exact .notLoaded he ho
  | nodeNotFound he ho hn hidle => exact .nodeNotFound he ho hn hidle
  | selecting version hn hbusy => exact .selecting version hn hbusy
  | noSelection hn hnone => exact .noSelection hn hnone
  | alreadyApplied hn hselected hpending hdisabled =>
    exact .alreadyApplied hn hselected hpending hdisabled
  | applying hn hselected hpending henabled hbusy =>
    exact .applying hn hselected hpending henabled hbusy
  | approving ho hbusy => exact .approving ho hbusy
  | nothingToApprove hn hidle hnone => exact .nothingToApprove hn hidle hnone

/-- **Any number of refusals leaves no trace**: after requests that are all refused, the reviewer has been
told of those that had nothing to approve, in order, and nothing else is different. -/
theorem after_refused {es : List Event} {fs : List ReviewError} (h : List.Forall₂ s.Refuses es fs) :
    s.after es = { s with notifications := s.notifications ++ fs.filterMap ReviewError.told? } := by
  suffices hall : ∀ ns, { s with notifications := ns }.after es =
      { s with notifications := ns ++ fs.filterMap ReviewError.told? } from hall s.notifications
  induction h with
  | nil => intro ns; rw [after_nil, List.filterMap_nil, List.append_nil]
  | @cons e f es fs h _ ih =>
    intro ns
    rw [after_cons, (h.of_notifications ns).perform.2, refused, ih]
    cases hf : f.told? with
    | none => rw [Option.toList_none, List.append_nil, List.filterMap_cons_none hf]
    | some notification =>
      rw [Option.toList_some, List.filterMap_cons_some hf, List.append_assoc, List.singleton_append]

/-- A fetch does not begin, without being refused, just where the content is there or on its way or the
node is no unit. -/
theorem beginUnitFetch_none_iff : (s.beginUnitFetch p).1 = .ok none ↔
    ∃ n, s.nodeAt p = some n ∧
      ¬ (n.needsFetch p = true ∧ s.expansion.loadState p = .notFetched) := by
  cases hn : s.requireNode p with
  | error e =>
    constructor
    · intro h
      rw [beginUnitFetch, hn] at h
      cases h
    · rintro ⟨n, hnode, -⟩
      rw [requireNode_ok.mpr hnode] at hn
      cases hn
  | ok n =>
    have hnode := requireNode_ok.mp hn
    by_cases hbegins : n.needsFetch p = true ∧ s.expansion.loadState p = .notFetched
    · rw [beginUnitFetch_of_needs hnode hbegins.1 hbegins.2]
      constructor
      · intro h
        cases h
      · rintro ⟨n', hnode', hnot⟩
        obtain rfl := Option.some.inj (hnode.symm.trans hnode')
        exact absurd hbegins hnot
    · refine iff_of_true ?_ ⟨n, hnode, hbegins⟩
      cases hneeds : n.needsFetch p with
      | false => rw [beginUnitFetch_of_not_needs hnode hneeds]
      | true =>
        have hload : s.expansion.loadState p ≠ .notFetched := fun h => hbegins ⟨hneeds, h⟩
        rw [beginUnitFetch, hn]
        simp only [hneeds, if_true, Expansion.beginFetch, if_neg hload]

/-- And it leaves no trace there either. -/
theorem beginUnitFetch_none (h : (s.beginUnitFetch p).1 = .ok none) : (s.beginUnitFetch p).2 = s := by
  have hmove := s.move_beginUnitFetch p
  rw [h] at hmove
  generalize hafter : (s.beginUnitFetch p).2 = s' at hmove
  cases hmove with
  | stale ht => cases ht
  | refused _ ha => cases ha
  | nothingToFetch => rfl

/-- Selecting the translation without a version is done at once, for a node that is there and for which
no version is on its way: the node shows its own payload again. -/
theorem beginSelect_pending {n : Node} (hn : s.nodeAt p = some n)
    (hidle : s.busy .selectVersion p = false) :
    ∃ s', s.beginSelect p pendingVersion = (.ok (.done .pending), s') ∧
      s'.nodeAt p = some n.revertPreview ∧ s'.selection p = some .pending := by
  obtain ⟨s', hs'⟩ := exists_updateRerun s hn Node.revertPreview
  refine ⟨s'.select p .pending, ?_, ?_, if_pos rfl⟩
  · rw [beginSelect, requireNode_ok.mpr hn]
    simp only [ensureIdle_ok.mpr hidle, if_pos, hs']
  · obtain ⟨o, r, ho, hr, rfl⟩ := updateRerun_ok.mp hs'
    obtain ⟨n', hn', hself⟩ := Tree.resolve_revise_self hr
    obtain ⟨o', ho', hn⟩ := nodeAt_eq_some.mp hn
    rw [ho] at ho'
    obtain rfl := Option.some.inj ho'
    obtain rfl := Option.some.inj (hn.symm.trans hn')
    exact hself

/-- **Requests that are refused leave no trace.**

1. A request about a path fails with just the reason for which the session refuses it.  Then the session
   is what it was, except that the reviewer is told, once, when there is nothing to approve.
2. The same is so when no fetch of a unit begins, because there is none to begin.
3. The selection of the translation without a version, for a node that is there and for which no version
   is on its way, succeeds: nothing can go wrong when the payload is put back. -/
theorem refused_without_trace (s : Session) :
    (∀ e p f, e.asked? = some p →
      ((s.perform e).1.failure? = some f ↔ s.Refuses e f) ∧
        ((s.perform e).1.failure? = some f →
          (s.perform e).2 = { s with notifications := s.notifications ++ f.told?.toList })) ∧
    (∀ p, ((s.beginUnitFetch p).1 = .ok none ↔
        ∃ n, s.nodeAt p = some n ∧
          ¬ (n.needsFetch p = true ∧ s.expansion.loadState p = .notFetched)) ∧
      ((s.beginUnitFetch p).1 = .ok none → (s.beginUnitFetch p).2 = s)) ∧
    ∀ p n, s.nodeAt p = some n → s.busy .selectVersion p = false →
      ∃ s', s.beginSelect p pendingVersion = (.ok (.done .pending), s') ∧
        s'.nodeAt p = some n.revertPreview ∧ s'.selection p = some .pending := by
  refine ⟨fun e p f he => ⟨⟨refuses_of_failure he, fun h => h.perform.1⟩, fun h => ?_⟩,
    fun p => ⟨beginUnitFetch_none_iff, beginUnitFetch_none⟩, fun p n => beginSelect_pending⟩
  exact (refuses_of_failure he h).perform.2

open Sample in
/-- A section has nothing to approve: the reviewer is told so, and nothing else is different.  No fetch
begins for it, as it is no unit, and its own name can be put back. -/
theorem refused_without_trace_of_chapter :
    loaded.session.Refuses (.beginApprove chapterPath) (.nothingToApprove "S1") ∧
      (loaded.session.perform (.beginApprove chapterPath)).2 =
        loaded.session.notify .info "Nothing to approve under S1" ∧
      (loaded.session.beginUnitFetch chapterPath).2 = loaded.session ∧
      ∃ s', loaded.session.beginSelect chapterPath pendingVersion = (.ok (.done .pending), s') ∧
        s'.selection chapterPath = some .pending := by
  obtain ⟨hrefused, hfetch, hselect⟩ := refused_without_trace loaded.session
  have hfails : (loaded.session.perform (.beginApprove chapterPath)).1.failure? =
      some (.nothingToApprove "S1") := rfl
  obtain ⟨hiff, htrace⟩ := hrefused (.beginApprove chapterPath) chapterPath (.nothingToApprove "S1") rfl
  obtain ⟨s', hs', -, hselected⟩ := hselect chapterPath _ rfl rfl
  exact ⟨hiff.mp hfails, htrace hfails, (hfetch chapterPath).2 rfl, s', hs', hselected⟩

end Session

end CourseReview
