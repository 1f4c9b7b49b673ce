import Mathlib.Algebra.Ring.Parity
import Mathlib.Data.List.DropRight
import CourseReview.Outline.Expansion

/-!
# What is shown and what is fetched

The states of the nodes change in five ways: one node is expanded or collapsed, all of them are, a
fetch begins, a fetch ends, and everything is forgotten for another outline.  What is shown is kept
as a visibility of a node's own over that of the whole outline, together with how far its content has
been fetched.  This file settles, over every sequence of such steps, that the two do not meddle with
each other.

* Whether a node is expanded is decided by how often it was turned: by the toggles of the whole
  outline, and by its own since the last of them (`Expansion.visibility_after`).
* Its load state changes only when its fetch is granted or ends (`Expansion.loadState_cases`).  What
  has been granted is granted again only after it has failed (`Expansion.failed_of_granted_twice`),
  and never when the node is collapsed (`Expansion.Grants.visibility`).
-/

namespace CourseReview

/-! ## 1. Steps -/

/-- What can be done to the states of the nodes. -/
inductive ViewStep where
  | toggle (path : NodePath) (needsFetch : Bool)
  | toggleAll
  | beginFetch (path : NodePath)
  | finishFetch (path : NodePath) (success : Bool)
  | reset
deriving DecidableEq, Repr

namespace ViewStep

/-- The node that the step is about, if it is about one. -/
def path? : ViewStep → Option NodePath
  | toggle p _ => some p
  | beginFetch p => some p
  | finishFetch p _ => some p
  | toggleAll => none
  | reset => none

/-- Whether the step expands or collapses that node alone. -/
def turns (p : NodePath) : ViewStep → Bool
  | toggle q _ => q = p
  | _ => false

/-- The steps since everything was last forgotten. -/
def sinceReset (steps : List ViewStep) : List ViewStep :=
  steps.rtakeWhile (· != reset)

/-- How often the whole outline was toggled. -/
def outlineTurns (steps : List ViewStep) : Nat :=
  (sinceReset steps).count toggleAll

/-- How often the node was toggled since the whole outline last was. -/
def ownTurns (p : NodePath) (steps : List ViewStep) : Nat :=
  ((sinceReset steps).rtakeWhile (· != toggleAll)).countP (turns p)

end ViewStep

namespace Expansion

/-- The states after a step, and whether a fetch has to be made because of it. -/
def perform (e : Expansion) : ViewStep → Bool × Expansion
  | .toggle p needsFetch => e.toggle p needsFetch
  | .toggleAll => (false, e.toggleAll)
  | .beginFetch p => e.beginFetch p
  | .finishFetch p success => (false, e.finishFetch p success)
  | .reset => (false, {})

/-- The states after some steps, for an outline of which nothing is known at first. -/
def after (steps : List ViewStep) : Expansion :=
  steps.foldl (fun e x => (e.perform x).2) {}

theorem after_snoc (steps : List ViewStep) (x : ViewStep) :
    after (steps ++ [x]) = ((after steps).perform x).2 := by
  rw [after, List.foldl_append]
  rfl

/-- Whether the step grants a fetch of the node's content. -/
def Grants (e : Expansion) (p : NodePath) (x : ViewStep) : Prop :=
  (e.perform x).1 = true ∧ x.path? = some p

variable {e : Expansion} {p q : NodePath} {x : ViewStep}

/-- Setting the view of a node sets how far its content is, and leaves all others. -/
theorem loadState_setView (x : Expansion) (p q : NodePath) (v : NodeView) :
    (x.setView p v).loadState q = if q = p then v.load else x.loadState q := by
  by_cases hq : q = p
  · rw [if_pos hq, hq, loadState, view_setView_self]
  · rw [if_neg hq, loadState, view_setView_of_ne hq, loadState]

/-- It sets whether the node is shown expanded, and leaves all others. -/
theorem visibility_setView (e : Expansion) (p q : NodePath) (v : NodeView) :
    (e.setView p v).visibility q =
      if q = p then v.visibility.getD e.globalVisibility else e.visibility q := by
  by_cases hq : q = p
  · rw [if_pos hq, hq, visibility, view_setView_self]
    rfl
  · rw [if_neg hq, visibility, view_setView_of_ne hq]
    rfl

end Expansion

/-! ## 2. What is shown -/

namespace Visibility

/-- The visibility after so many turns of what was collapsed. -/
def afterTurns (turns : Nat) : Visibility :=
  if turns % 2 = 1 then .expanded else .collapsed

theorem afterTurns_succ (turns : Nat) : afterTurns (turns + 1) = (afterTurns turns).toggled := by
  unfold afterTurns
  by_cases hodd : turns % 2 = 1
  · rw [if_pos hodd, if_neg (by omega)]
    rfl
  · rw [if_neg hodd, if_pos (by omega)]
    rfl

theorem afterTurns_eq_expanded_iff {turns : Nat} : afterTurns turns = .expanded ↔ Odd turns := by
  unfold afterTurns
  rw [Nat.odd_iff]
  split <;> simp [*]

end Visibility

namespace Expansion

variable {e : Expansion} {p q : NodePath} {x : ViewStep}

theorem visibility_toggle (e : Expansion) (p : NodePath) (needsFetch : Bool) (q : NodePath) :
    (e.toggle p needsFetch).2.visibility q =
      if q = p then (e.visibility p).toggled else e.visibility q :=
  visibility_setView ..

/-- Toggling the whole outline makes all nodes alike. -/
theorem visibility_toggleAll (e : Expansion) (p : NodePath) :
    e.toggleAll.visibility p = .afterTurns (e.globalToggles + 1) :=
  rfl

/-- Beginning a fetch leaves what is shown as it is. -/
theorem visibility_beginFetch (e : Expansion) (p q : NodePath) :
    (e.beginFetch p).2.visibility q = e.visibility q := by
  unfold beginFetch
  split
  · rw [visibility_setView]
    split
    · rename_i hq
      rw [hq, visibility]
    · rfl
  · rfl

/-- So does ending one. -/
theorem visibility_finishFetch (e : Expansion) (p : NodePath) (success : Bool) (q : NodePath) :
    (e.finishFetch p success).visibility q = e.visibility q := by
  rw [finishFetch, visibility_setView]
  split
  · rename_i hq
    rw [hq, visibility]
  · rfl

theorem globalToggles_perform (e : Expansion) (x : ViewStep) :
    (e.perform x).2.globalToggles =
      match x with
      | .toggleAll => e.globalToggles + 1
      | .reset => 0
      | _ => e.globalToggles := by
  cases x with
  | beginFetch p =>
    dsimp only [perform, beginFetch]
    split <;> rfl
  | _ => rfl

/-- **What is shown is a matter of turns.** -/
theorem visibility_after (steps : List ViewStep) :
    (after steps).globalToggles = ViewStep.outlineTurns steps ∧
      ∀ p, (after steps).visibility p =
        .afterTurns (ViewStep.outlineTurns steps + ViewStep.ownTurns p steps) := by
  unfold ViewStep.outlineTurns ViewStep.ownTurns ViewStep.sinceReset
  induction steps using List.reverseRecOn with
  | nil => exact ⟨rfl, fun p => rfl⟩
  | append_singleton steps x ih =>
    obtain ⟨hall, hshown⟩ := ih
    rw [after_snoc, globalToggles_perform]
    cases x with
    | toggle q needsFetch =>
      refine ⟨by simpa using hall, fun p => ?_⟩
      simp only [perform, visibility_toggle]
      by_cases hp : p = q
      · rw [if_pos hp, ← hp, hshown, ← Visibility.afterTurns_succ]
        simp [ViewStep.turns, Nat.add_assoc]
      · rw [if_neg hp, hshown]
        simp [ViewStep.turns, Ne.symm hp]
    | toggleAll =>
      refine ⟨by simp [hall], fun p => ?_⟩
      simp only [perform, visibility_toggleAll, hall]
      simp
    | beginFetch q =>
      refine ⟨by simpa using hall, fun p => ?_⟩
      simp only [perform, visibility_beginFetch, hshown]
      simp [ViewStep.turns]
    | finishFetch q success =>
      refine ⟨by simpa using hall, fun p => ?_⟩
      simp only [perform, visibility_finishFetch, hshown]
      simp [ViewStep.turns]
    | reset => exact ⟨by simp, fun p => by simp; rfl⟩

/-! ## 3. What is fetched -/

/-- Toggling a node asks for its content only when the node needs it and none is on its way, which
is then so. -/
theorem toggle_fetches {x : Expansion} {p : NodePath} {needsFetch : Bool}
    (h : (x.toggle p needsFetch).1 = true) :
    needsFetch = true ∧ x.loadState p = .notFetched ∧
      ∀ q, (x.toggle p needsFetch).2.loadState q = if q = p then .fetching else x.loadState q := by
  have hfetch := h
  rw [toggle, Bool.and_eq_true, Bool.and_eq_true, beq_iff_eq] at h
  refine ⟨h.1.2, h.2, fun q => ?_⟩
  rw [toggle] at hfetch ⊢
  dsimp only at hfetch ⊢
  rw [loadState_setView]
  rw [if_pos hfetch]

/-- Otherwise all content is as far as it was. -/
theorem toggle_fetches_not {x : Expansion} {p : NodePath} {needsFetch : Bool}
    (h : (x.toggle p needsFetch).1 = false) (q : NodePath) :
    (x.toggle p needsFetch).2.loadState q = x.loadState q := by
  rw [toggle] at h ⊢
  dsimp only at h ⊢
  rw [h, loadState_setView]
  split
  · rename_i hq; rw [hq]; rfl
  · rfl

theorem loadState_finishFetch (x : Expansion) (p q : NodePath) (success : Bool) :
    (x.finishFetch p success).loadState q =
      if q = p then (if success then .fetched else .notFetched) else x.loadState q := by
  rw [finishFetch, loadState_setView]

/-- A fetch that begins is granted to a node of which nothing has been fetched. -/
theorem beginFetch_fetches (h : (e.beginFetch p).1 = true) :
    e.loadState p = .notFetched ∧
      ∀ q, (e.beginFetch p).2.loadState q = if q = p then .fetching else e.loadState q := by
  unfold beginFetch at h ⊢
  split
  · rename_i hload
    exact ⟨hload, fun q => loadState_setView ..⟩
  · rename_i hload
    rw [if_neg hload] at h
    cases h

/-- A fetch that is refused changes nothing. -/
theorem beginFetch_fetches_not (h : (e.beginFetch p).1 = false) : (e.beginFetch p).2 = e := by
  unfold beginFetch at h ⊢
  split
  · rename_i hload
    rw [if_pos hload] at h
    cases h
  · rfl

/-- What a step does to the load state of a node. -/
inductive LoadChange (e : Expansion) (p : NodePath) (x : ViewStep) : LoadState → Prop where
  /-- Its fetch is granted, and nothing was fetched before. -/
  | granted (h : e.Grants p x) (hbefore : e.loadState p = .notFetched) : LoadChange e p x .fetching
  /-- Its fetch ends. -/
  | ended (success : Bool) (h : x = .finishFetch p success) :
    LoadChange e p x (if success then .fetched else .notFetched)
  /-- Everything is forgotten. -/
  | forgotten (h : x = .reset) : LoadChange e p x .notFetched
  /-- The step has nothing to do with its content. -/
  | none (h : ¬ e.Grants p x) : LoadChange e p x (e.loadState p)

/-- A step that may grant a fetch to one node, and otherwise leaves all content. -/
theorem LoadChange.of_fetching (hpath : x.path? = some q)
    (hfetches : (e.perform x).1 = true → e.loadState q = .notFetched ∧
      ∀ p, (e.perform x).2.loadState p = if p = q then .fetching else e.loadState p)
    (hnot : (e.perform x).1 = false → ∀ p, (e.perform x).2.loadState p = e.loadState p) :
    LoadChange e p x ((e.perform x).2.loadState p) := by
  cases hfetch : (e.perform x).1 with
  | false =>
    rw [hnot hfetch]
    exact .none fun h => by rw [h.1] at hfetch; cases hfetch
  | true =>
    obtain ⟨hbefore, hload⟩ := hfetches hfetch
    rw [hload]
    by_cases hp : p = q
    · rw [if_pos hp]
      exact .granted ⟨hfetch, hp ▸ hpath⟩ (hp ▸ hbefore)
    · rw [if_neg hp]
      refine .none fun h => hp ?_
      rw [h.2] at hpath
      exact Option.some.inj hpath

/-- **What a step does to the load state of a node.** -/
theorem loadState_cases (e : Expansion) (p : NodePath) (x : ViewStep) :
    LoadChange e p x ((e.perform x).2.loadState p) := by
  cases x with
  | toggle q needsFetch =>
    exact .of_fetching rfl (fun h => (toggle_fetches h).2) toggle_fetches_not
  | beginFetch q =>
    exact .of_fetching rfl beginFetch_fetches fun h p => by
      rw [show (e.perform (.beginFetch q)).2 = e from beginFetch_fetches_not h]
  | toggleAll => exact .none fun h => nomatch h.1
  | finishFetch q success =>
    rw [show (e.perform (.finishFetch q success)).2 = e.finishFetch q success from rfl,
      loadState_finishFetch]
    by_cases hp : p = q
    · rw [if_pos hp]
      exact .ended success (hp ▸ rfl)
    · rw [if_neg hp]
      exact .none fun h => nomatch h.1
  | reset => exact .forgotten rfl

namespace Grants

/-- What is granted has not been fetched, and is being fetched from then on. -/
theorem notFetched (h : e.Grants p x) :
    e.loadState p = .notFetched ∧ (e.perform x).2.loadState p = .fetching := by
  obtain ⟨hfetch, hpath⟩ := h
  cases x with
  | toggle q needsFetch =>
    obtain rfl := Option.some.inj hpath
    obtain ⟨-, hbefore, hload⟩ := toggle_fetches hfetch
    exact ⟨hbefore, (hload q).trans (if_pos rfl)⟩
  | beginFetch q =>
    obtain rfl := Option.some.inj hpath
    obtain ⟨hbefore, hload⟩ := beginFetch_fetches hfetch
    exact ⟨hbefore, (hload q).trans (if_pos rfl)⟩
  | _ => cases hfetch

/-- **A node is not collapsed to fetch it.** -/
theorem visibility {needsFetch : Bool} (h : e.Grants p (.toggle q needsFetch)) :
    (e.perform (.toggle q needsFetch)).2.visibility p = .expanded := by
  obtain ⟨hfetch, hpath⟩ := h
  obtain rfl := Option.some.inj hpath
  change (e.toggle q needsFetch).1 = true at hfetch
  change (e.toggle q needsFetch).2.visibility q = .expanded
  rw [toggle, Bool.and_eq_true, Bool.and_eq_true] at hfetch
  rw [visibility_toggle, if_pos rfl]
  exact beq_iff_eq.mp hfetch.1.1

end Grants

/-- What is fetched, or on its way, stays so until it fails or everything is forgotten. -/
theorem loadState_after_append {steps : List ViewStep} (h : (after steps).loadState p ≠ .notFetched)
    (more : List ViewStep) (hreset : .reset ∉ more) (hfailed : .finishFetch p false ∉ more) :
    (after (steps ++ more)).loadState p ≠ .notFetched := by
  induction more using List.reverseRecOn with
  | nil => rwa [List.append_nil]
  | append_singleton more x ih =>
    simp only [List.mem_append, List.mem_singleton, not_or] at hreset hfailed
    rw [← List.append_assoc, after_snoc]
    have hchange := (after (steps ++ more)).loadState_cases p x
    generalize ((after (steps ++ more)).perform x).2.loadState p = load at hchange ⊢
    cases hchange with
    | granted => decide
    | ended success hx =>
      cases success with
      | true => decide
      | false => exact absurd hx.symm hfailed.2
    | forgotten hx => exact absurd hx.symm hreset.2
    | none => exact ih hreset.1 hfailed.1

/-- **What is granted twice has failed in between.** -/
theorem failed_of_granted_twice {steps between : List ViewStep} {first second : ViewStep}
    (hfirst : (after steps).Grants p first)
    (hsecond : (after (steps ++ first :: between)).Grants p second) (hreset : .reset ∉ between) :
    .finishFetch p false ∈ between := by
  by_contra hfailed
  have hfetching : (after (steps ++ [first])).loadState p ≠ .notFetched := by
    rw [after_snoc, hfirst.notFetched.2]
    decide
  have hkept := loadState_after_append hfetching between hreset hfailed
  rw [List.append_assoc, List.singleton_append] at hkept
  exact hkept hsecond.notFetched.1

/-- **What is shown and what is fetched are apart.**  After every sequence of steps, and for every node,

* the node is expanded exactly if the toggles of the whole outline, together with its own since the last
  of them, are odd in number, whatever was fetched;
* its load state is changed by no step but one that grants its fetch, or ends it, or forgets everything;
* a toggle that grants its fetch leaves it expanded;
* between two steps that grant its fetch it has failed, unless everything was forgotten. -/
theorem shown_by_turns_fetched_by_grants (steps : List ViewStep) (p : NodePath) :
    ((after steps).visibility p = .expanded ↔
      Odd (ViewStep.outlineTurns steps + ViewStep.ownTurns p steps)) ∧
    (∀ x, (after (steps ++ [x])).loadState p ≠ (after steps).loadState p →
      (after steps).Grants p x ∨ (∃ success, x = .finishFetch p success) ∨ x = .reset) ∧
    (∀ needsFetch, (after steps).Grants p (.toggle p needsFetch) →
      (after (steps ++ [.toggle p needsFetch])).visibility p = .expanded) ∧
    ∀ first between second, (after steps).Grants p first →
      (after (steps ++ first :: between)).Grants p second → .reset ∉ between →
      .finishFetch p false ∈ between := by
  refine ⟨?_, fun x hx => ?_, fun needsFetch hgrants => ?_, fun first between second => ?_⟩
  · rw [(visibility_after steps).2 p, Visibility.afterTurns_eq_expanded_iff]
  · rw [after_snoc] at hx
    have hchange := (after steps).loadState_cases p x
    generalize ((after steps).perform x).2.loadState p = load at hchange hx
    cases hchange with
    | granted hgrants => exact .inl hgrants
    | ended success h => exact .inr (.inl ⟨success, h⟩)
    | forgotten h => exact .inr (.inr h)
    | none => exact absurd rfl hx
  · rw [after_snoc]
    exact hgrants.visibility
  · exact failed_of_granted_twice

end Expansion

namespace Sample

/-- A unit that is expanded and collapsed. -/
def viewedUnit : NodePath :=
  .outline ["S1", "Q1", "U1"]

/-- Expands or collapses the unit, whose content is missing. -/
def turnUnit : ViewStep :=
  .toggle viewedUnit true

/-- While the content of the unit is on its way the whole outline is toggled; then the fetch fails, and
the unit is collapsed. -/
def fetchFailing : List ViewStep :=
  [.toggleAll, .finishFetch viewedUnit false, turnUnit]

end Sample

open Sample in
/-- A unit is expanded, its content fails to come, and after it has been collapsed it is expanded again.
That makes three turns, and its content is asked for twice. -/
theorem Expansion.shown_and_fetched_after_failure :
    (after []).Grants viewedUnit turnUnit ∧
      (after (turnUnit :: fetchFailing)).Grants viewedUnit turnUnit ∧
      .reset ∉ fetchFailing ∧ .finishFetch viewedUnit false ∈ fetchFailing ∧
      (after (turnUnit :: fetchFailing ++ [turnUnit])).visibility viewedUnit = .expanded ∧
      Odd (ViewStep.outlineTurns (turnUnit :: fetchFailing ++ [turnUnit]) +
        ViewStep.ownTurns viewedUnit (turnUnit :: fetchFailing ++ [turnUnit])) := by
  obtain ⟨-, hchanged, -, hfailed⟩ := shown_by_turns_fetched_by_grants [] viewedUnit
  obtain ⟨-, -, hexpanded, -⟩ := shown_by_turns_fetched_by_grants (turnUnit :: fetchFailing) viewedUnit
  obtain ⟨hturns, -⟩ :=
    shown_by_turns_fetched_by_grants (turnUnit :: fetchFailing ++ [turnUnit]) viewedUnit
  have hfirst : (after []).Grants viewedUnit turnUnit := by
    obtain hgrants | ⟨success, h⟩ | h := hchanged turnUnit (by decide)
    · exact hgrants
    · cases h
    · cases h
  have hsecond : (after (turnUnit :: fetchFailing)).Grants viewedUnit turnUnit := ⟨by decide, rfl⟩
  have hreset : .reset ∉ fetchFailing := by decide
  have hshown := hexpanded true hsecond
  exact ⟨hfirst, hsecond, hreset, hfailed turnUnit fetchFailing turnUnit hfirst hsecond hreset, hshown,
    hturns.mp hshown⟩

end CourseReview
