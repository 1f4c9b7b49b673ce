import CourseReview.Proofs.Outline.PathText
import CourseReview.Proofs.Outline.Replacement
import Mathlib.Data.List.Induction
import Mathlib.Logic.Relation

/-!
# Paths as an order

One path contains another when its ids come first.  The other operations on paths are written without a
look at this: a parent is what is left when the last id goes, a child has one id more as long as there is
room, and a path is resolved by one look-up for each id.  This file says that they all speak of one order,
the order of the nodes in an outline from the course and the sections downwards.

* Every path that can be built is the course or has one to four ids (`NodePath.built_iff`).  The list
  without ids is outside: it would contain all sections and be nobody's parent.
* A path contains those that lead up to it by parents (`NodePath.contains_iff_reaches`).
* Where a path leads, there lead the paths that contain it, and the ids that it adds lead on from there
  (`NodePath.exists_resolve_of_contains`).

`NodePath.contains_is_ancestor_order` puts them together.
-/

namespace CourseReview

namespace NodePath

/-! ## 1. The paths that can be built -/

/-- The paths that come about: the course, sections, children of such paths, and what is made of ids given
one by one or read from a text. -/
inductive Built : NodePath → Prop where
  | course : Built .courseInfo
  | ofSection (id : String) : Built (.ofSection id)
  | child {p q : NodePath} {id : String} (hp : Built p) (h : p.child id = .ok q) : Built q
  | ofIds {a b c d : Option String} {q : NodePath} (h : NodePath.ofIds a b c d = .ok q) : Built q
  | parse {s : String} {q : NodePath} (h : NodePath.parse s = .ok q) : Built q

variable {a b c p q : NodePath} {t : Tree} {y : Node}

/-- A path has a child exactly if it is not the course and there is room for one more id. -/
theorem child_eq_ok_iff {id : String} : p.child id = .ok q ↔
    ∃ ids, p = .outline ids ∧ ids.length < maxDepth ∧ q = .outline (ids ++ [id]) := by
  cases p with
  | courseInfo => simp [child]
  | outline ids =>
    rw [child]
    by_cases hfull : maxDepth ≤ ids.length
    · rw [if_pos hfull]
      refine iff_of_false (fun h => nomatch h) ?_
      rintro ⟨ids', heq, hroom, -⟩
      rw [outline.injEq] at heq
      rw [← heq] at hroom
      exact Nat.not_lt.mpr hfull hroom
    · rw [if_neg hfull, Except.ok.injEq]
      constructor
      · rintro rfl
        exact ⟨ids, rfl, Nat.not_le.mp hfull, rfl⟩
      · rintro ⟨ids', heq, -, rfl⟩
        rw [outline.injEq] at heq
        rw [heq]

/-- Of ids given one by one a path is made when those that are given come first. -/
theorem ofIds_eq_ok {a b c d : Option String} (h : ofIds a b c d = .ok q) :
    ∃ ids, ids ≠ [] ∧ ids.length ≤ maxDepth ∧ q = .outline ids := by
  -- the first id that is missing decides, and one that follows it is refused
  match a, b, c, d, h with
  | none, _, _, _, h => cases h
  | some _, none, some _, _, h => cases h
  | some _, none, none, some _, h => cases h
  | some _, some _, none, some _, h => cases h
  | some a, none, none, none, h => exact ⟨[a], by simp, by simp [maxDepth], (Except.ok.inj h).symm⟩
  | some a, some b, none, none, h => exact ⟨[a, b], by simp, by simp [maxDepth], (Except.ok.inj h).symm⟩
  | some a, some b, some c, none, h =>
    exact ⟨[a, b, c], by simp, by simp [maxDepth], (Except.ok.inj h).symm⟩
  | some a, some b, some c, some d, h =>
    exact ⟨[a, b, c, d], by simp, by simp [maxDepth], (Except.ok.inj h).symm⟩

/-- **The paths that come about** are the course and the lists of one to four ids. -/
theorem built_iff : Built p ↔
    p = .courseInfo ∨ ∃ ids, ids ≠ [] ∧ ids.length ≤ maxDepth ∧ p = .outline ids := by
  constructor
  · intro h
    cases h with
    | course => exact Or.inl rfl
    | ofSection id => exact Or.inr ⟨[id], by simp, by simp [maxDepth], rfl⟩
    | child _ h =>
      obtain ⟨ids, -, hroom, rfl⟩ := child_eq_ok_iff.mp h
      refine Or.inr ⟨_, by simp, ?_, rfl⟩
      rw [List.length_append, List.length_singleton]
      exact hroom
    | ofIds h => exact Or.inr (ofIds_eq_ok h)
    | parse h =>
      obtain ⟨-, inner, -, -, hspells⟩ := parse_eq_ok_iff.mp h
      cases hspells with
      | course => exact Or.inl rfl
      | ids hids _ => exact Or.inr ⟨_, hids.some, hids.few, rfl⟩
  · rintro (rfl | ⟨ids, hne, hfew, rfl⟩)
    · exact .course
    · induction ids using List.reverseRecOn with
      | nil => exact absurd rfl hne
      | append_singleton init id ih =>
        rw [List.length_append, List.length_singleton] at hfew
        by_cases hinit : init = []
        · subst hinit
          exact .ofSection id
        · exact .child (ih hinit (by omega)) (child_eq_ok_iff.mpr ⟨init, rfl, by omega, rfl⟩)

/-- What comes about has a place in outlines. -/
theorem Built.ne_nil {ids : List String} (h : Built (.outline ids)) : ids ≠ [] := by
  rintro rfl
  rcases built_iff.mp h with h | ⟨ids, hne, -, heq⟩
  · cases h
  · rw [outline.injEq] at heq
    exact hne heq.symm

/-! ## 2. The order -/

theorem contains_antisymm (h : a.contains b = true) (h' : b.contains a = true) : a = b := by
  obtain ⟨rfl, rfl⟩ | ⟨ids, rest, rfl, rfl⟩ := contains_cases h
  · rfl
  · have hprefix := contains_outline_iff.mp h'
    rw [List.IsPrefix.eq_of_length_le hprefix (by simp)]

theorem contains_trans (h : a.contains b = true) (h' : b.contains c = true) : a.contains c = true := by
  obtain ⟨rfl, rfl⟩ | ⟨ids, rest, rfl, rfl⟩ := contains_cases h
  · exact h'
  · obtain ⟨hcourse, -⟩ | ⟨ids', rest', heq, rfl⟩ := contains_cases h'
    · cases hcourse
    · rw [outline.injEq] at heq
      rw [← heq, List.append_assoc]
      exact contains_outline_iff.mpr (List.prefix_append ids _)

/-- The parent of a path with one id more is the path, unless this is the list without ids. -/
theorem parent?_append {ids : List String} (hne : ids ≠ []) (id : String) :
    (outline (ids ++ [id])).parent? = some (.outline ids) := by
  have hlen : 1 < (ids ++ [id]).length := by
    rw [List.length_append, List.length_singleton]
    exact Nat.lt_add_of_pos_left (List.length_pos_iff.mpr hne)
  rw [parent?, if_pos hlen, List.dropLast_concat]

/-- A parent contains its child. -/
theorem contains_of_parent? (h : p.parent? = some q) : q.contains p = true := by
  cases p with
  | courseInfo => cases h
  | outline ids =>
    rw [parent?] at h
    split at h
    · obtain rfl := Option.some.inj h
      exact contains_outline_iff.mpr (List.dropLast_prefix ids)
    · cases h

/-- Whether the second path is found from the first by going to the parent any number of times. -/
def Reaches : NodePath → NodePath → Prop :=
  Relation.ReflTransGen fun p q => p.parent? = some q

/-- **A path contains itself and what leads up to it by parents, and nothing else.** -/
theorem contains_iff_reaches (ha : Built a) : a.contains b = true ↔ b.Reaches a := by
  constructor
  · intro h
    obtain ⟨rfl, rfl⟩ | ⟨ids, rest, rfl, rfl⟩ := contains_cases h
    · exact .refl
    · -- going up takes the ids away that `b` adds, last first
      have hids := ha.ne_nil
      clear h ha
      induction rest using List.reverseRecOn with
      | nil =>
        rw [List.append_nil]
        exact .refl
      | append_singleton rest id ih =>
        rw [← List.append_assoc]
        exact .head (parent?_append (by simp [hids]) id) ih
  · intro h
    clear ha
    induction h with
    | refl => exact contains_refl b
    | tail _ hparent ih => exact contains_trans (contains_of_parent? hparent) ih

/-- **A child** is the one step down that the parent is up. -/
theorem child_laws {id : String} (hp : Built p) (h : p.child id = .ok c) :
    c.parent? = some p ∧ p.contains c = true ∧ c.depth = p.depth + 1 := by
  obtain ⟨ids, rfl, -, rfl⟩ := child_eq_ok_iff.mp h
  have hparent := parent?_append hp.ne_nil id
  refine ⟨hparent, contains_of_parent? hparent, ?_⟩
  rw [depth, depth, List.length_append, List.length_singleton]

/-! ## 3. In an outline -/

/-- **Where a path leads, those that contain it lead too**, to a node from which the ids that it adds lead
on. -/
theorem exists_resolve_of_contains (ha : Built a) (hb : b.resolve t = some y) (h : a.contains b = true) :
    ∃ x rest, a.resolve t = some x ∧ b.ids = a.ids ++ rest ∧ descend a.depth rest x = some y := by
  obtain ⟨rfl, rfl⟩ | ⟨ids, rest, rfl, rfl⟩ := contains_cases h
  · exact ⟨y, [], hb, rfl, descend_nil ..⟩
  · rw [resolve_append ha.ne_nil, Option.bind_eq_some_iff] at hb
    obtain ⟨x, hx, hy⟩ := hb
    exact ⟨x, rest, hx, rfl, hy⟩

/-- Another key for a node. -/
def rekey (key : String) (n : Node) : Node :=
  { n with usageKey := key }

theorem ownFields_rekey (key : String) : OwnFields (rekey key) where
  get slot n := by cases slot <;> rfl
  set slot n m := by cases slot <;> rfl

/-- **What is written at a path is read there and at no other path.** -/
theorem replaceAt_rekey {n : Node} (hn : p.resolve t = some n) (key : String) :
    ∃ t', t.replaceAt p (rekey key) = .ok t' ∧ p.resolve t' = some (rekey key n) ∧
      ∀ q : NodePath, q ≠ p →
        (q.resolve t').map Node.usageKey = (q.resolve t).map Node.usageKey := by
  obtain ⟨r, hr⟩ := Tree.exists_revise_of_resolve hn fun n => .renewed (rekey key n)
  have htree : r.tree = t.update p (rekey key) := Tree.revise_eq_update hr
  refine ⟨r.tree, by rw [Tree.replaceAt, hr]; rfl, ?_, fun q hne => ?_⟩
  · rw [htree, Tree.resolve_update_self, hn, Option.map_some]
  · rw [htree]
    exact t.map_resolve_update hne (fun _ slot n m => by cases slot <;> rfl) fun _ => ownFields_rekey key

/-- **Containing is being an ancestor.**

* Of the paths that can be built, one contains another exactly if it is the other or is found from it by
  going to the parent again and again.  This is an order.
* A child has the path that it was made from as its parent, is contained in it, and is one level below.
* Where a path leads, every path that contains it leads too, to a node from which the ids that the first
  adds lead on to where it leads.  What is written at a path is read at this path and at no other, so no
  two paths lead to one position. -/
theorem contains_is_ancestor_order :
    (∀ a b : NodePath, a.Built → b.Built → (a.contains b = true ↔ b.Reaches a)) ∧
    (∀ a : NodePath, a.contains a = true) ∧
    (∀ a b : NodePath, a.contains b = true → b.contains a = true → a = b) ∧
    (∀ a b c : NodePath, a.contains b = true → b.contains c = true → a.contains c = true) ∧
    (∀ (p : NodePath) (id : String) (c : NodePath), p.Built → p.child id = .ok c →
      c.parent? = some p ∧ p.contains c = true ∧ c.depth = p.depth + 1) ∧
    (∀ (t : Tree) (a b : NodePath) (y : Node), a.Built → b.resolve t = some y → a.contains b = true →
      ∃ x rest, a.resolve t = some x ∧ b.ids = a.ids ++ rest ∧ descend a.depth rest x = some y) ∧
    ∀ (t : Tree) (p : NodePath) (n : Node), p.resolve t = some n → ∀ key : String,
      ∃ t', t.replaceAt p (rekey key) = .ok t' ∧ p.resolve t' = some (rekey key n) ∧
        ∀ q : NodePath, q ≠ p →
          (q.resolve t').map Node.usageKey = (q.resolve t).map Node.usageKey := by
  refine ⟨fun a b ha _ => contains_iff_reaches ha, contains_refl, fun a b => contains_antisymm,
    fun a b c => contains_trans, fun p id c hp => child_laws hp,
    fun t a b y ha hb h => exists_resolve_of_contains ha hb h, ?_⟩
  intro t p n hn key
  exact replaceAt_rekey hn key

open Sample in
/-- A subsection is read, and its section is found above it by the parent and in the outline; a new key for
the section is not read at the subsection. -/
theorem contains_is_ancestor_order_beside :
    ∃ p q : NodePath, parse "S1/Q1" = .ok p ∧ q.child "Q1" = .ok p ∧ q = .ofSection "S1" ∧ p.Reaches q ∧
      p.parent? = some q ∧ (∃ x rest, q.resolve twoSections = some x ∧ p.ids = q.ids ++ rest ∧
        descend q.depth rest x = some (.ofBlock "sequential" "sequential")) ∧
      ∃ t', twoSections.replaceAt q (rekey "new") = .ok t' ∧
        (p.resolve t').map Node.usageKey = some "sequential" := by
  obtain ⟨hreaches, -, -, -, hchild, hresolve, hwrite⟩ := contains_is_ancestor_order
  have hread : parse "S1/Q1" = .ok (.outline ["S1", "Q1"]) := rfl
  have hsection : Built (.ofSection "S1") := .ofSection "S1"
  obtain ⟨hparent, hcontains, -⟩ := hchild _ "Q1" (.outline ["S1", "Q1"]) hsection rfl
  obtain ⟨t', ht', -, hothers⟩ := hwrite twoSections (.ofSection "S1") _ rfl "new"
  exact ⟨.outline ["S1", "Q1"], .ofSection "S1", hread, rfl, rfl,
    (hreaches _ _ hsection (.parse hread)).mp hcontains, hparent,
    hresolve twoSections _ _ _ hsection rfl hcontains, t', ht', hothers _ (by decide)⟩

end NodePath

end CourseReview
