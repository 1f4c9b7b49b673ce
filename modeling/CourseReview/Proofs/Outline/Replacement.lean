import CourseReview.Proofs.Outline.Update

/-!
# The laws of an update

An update of the node at a path is made by a recursion of its own, which stops early where the node is
handed on.  This file settles that all this cannot be told from the outline that comes out: there an
update is a plain replacement at one place.

* It can be made exactly where the path leads somewhere (`Tree.exists_revise_iff`).
* It is seen at the path, and at the nodes above, each of which has one other entry in one of its maps
  (`Tree.resolve_update_above`); beside the path nothing changes, and no map changes its ids
  (`Tree.UpdatedAt`).
* An update that changes nothing leaves the outline as it is (`Tree.update_eq_self`), two at one path
  are one (`Tree.update_update_self`), and two beside each other can be made in either order.

`Tree.revise_laws` puts them together, for outlines of any shape and paths of any length.
-/

namespace CourseReview

/-! ## 1. One entry of a map -/

namespace Keyed

variable {α : Type}

@[simp] theorem keys_modify (key : String) (f : α → α) :
    ∀ m : Keyed α, keys (modify key f m) = keys m
  | [] => rfl
  | (k, v) :: rest => by
    rw [modify]
    split
    · rfl
    · rw [keys_cons, keys_cons, keys_modify]

/-- A modification that changes nothing. -/
theorem modify_eq_self {key : String} {f : α → α} :
    ∀ {m : Keyed α}, (∀ v, get? key m = some v → f v = v) → modify key f m = m
  | [], _ => rfl
  | (k, v) :: rest, h => by
    rw [modify]
    split
    · rename_i hk
      rw [h v (by rw [get?, if_pos hk])]
    · rename_i hk
      rw [modify_eq_self fun w hw => h w (by rw [get?, if_neg hk, hw])]

end Keyed

/-! ## 2. Below one node -/

namespace Node

variable {f g : Node → Node}

/-- An update that changes nothing. -/
theorem update_eq_self :
    ∀ {ids : List String} {depth : Nat} {n : Node},
      (∀ x, NodePath.descend depth ids n = some x → f x = x) → update f depth ids n = n := by
  intro ids
  induction ids with
  | nil => intro depth n h; exact h n (NodePath.descend_nil ..)
  | cons id rest ih =>
    intro depth n h
    cases hm : (ChildSlot.atDepth depth).get n with
    | none => rw [update_cons_of_none hm]
    | some m =>
      rw [update_cons_of_some hm, Keyed.modify_eq_self fun c hc => ih fun x hx => ?_,
        ChildSlot.set_get hm]
      exact h x (NodePath.descend_cons_eq_some.mpr ⟨m, c, hm, hc, hx⟩)

/-- Two updates at one place are one. -/
theorem update_update_self (f g : Node → Node) :
    ∀ (ids : List String) (depth : Nat) (n : Node),
      update g depth ids (update f depth ids n) = update (fun x => g (f x)) depth ids n := by
  intro ids
  induction ids with
  | nil => intro depth n; rfl
  | cons id rest ih =>
    intro depth n
    cases hm : (ChildSlot.atDepth depth).get n with
    | none => rw [update_cons_of_none hm, update_cons_of_none hm, update_cons_of_none hm]
    | some m =>
      rw [update_cons_of_some hm, update_cons_of_some hm,
        update_cons_of_some (ChildSlot.get_set _ _ _), ChildSlot.set_set, Keyed.modify_modify_self,
        funext (ih (depth + 1))]

/-- An update seen from above: the node there is updated below. -/
theorem descend_update_above (f : Node → Node) (rest : List String) :
    ∀ (ids : List String) (depth : Nat) (n : Node),
      NodePath.descend depth ids (update f depth (ids ++ rest) n) =
        (NodePath.descend depth ids n).map (update f (depth + ids.length) rest) := by
  intro ids
  induction ids with
  | nil => intro depth n; simp
  | cons id ids ih =>
    intro depth n
    have hlen : depth + (id :: ids).length = depth + 1 + ids.length := by
      rw [List.length_cons]; omega
    rw [List.cons_append, hlen]
    cases hm : (ChildSlot.atDepth depth).get n with
    | none =>
      rw [update_cons_of_none hm, NodePath.descend_cons, hm, Option.bind_none, Option.map_none]
    | some m =>
      rw [update_cons_of_some hm, NodePath.descend_cons, NodePath.descend_cons, hm,
        ChildSlot.get_set, Option.bind_some, Option.bind_some, Keyed.get?_modify_self]
      cases Keyed.get? id m with
      | none => rfl
      | some c => exact ih (depth + 1) c

end Node

/-! ## 3. Whole outlines -/

namespace Tree

variable {t : Tree} {p : NodePath} {f : Node → Node}

/-- **An update that changes nothing** leaves the outline as it is. -/
theorem update_eq_self (h : ∀ n, p.resolve t = some n → f n = n) : t.update p f = t := by
  match p, h with
  | .courseInfo, h => rw [update, h t.courseInfo rfl]
  | .outline [], _ => rfl
  | .outline (id :: rest), h =>
    rw [update, Keyed.modify_eq_self fun s hs => Node.update_eq_self fun x hx => ?_]
    exact h x (by rw [NodePath.resolve, hs, Option.bind_some, hx])

/-- **Two updates at one path are one.** -/
theorem update_update_self (t : Tree) (p : NodePath) (f g : Node → Node) :
    (t.update p f).update p g = t.update p fun n => g (f n) := by
  match p with
  | .courseInfo => rfl
  | .outline [] => rfl
  | .outline (id :: rest) =>
    simp only [update]
    rw [Keyed.modify_modify_self, funext (Node.update_update_self f g rest 1)]

/-- **An update seen from above.** -/
theorem resolve_update_above {ids : List String} (h : ids ≠ []) (t : Tree) (rest : List String)
    (f : Node → Node) :
    (NodePath.outline ids).resolve (t.update (.outline (ids ++ rest)) f) =
      ((NodePath.outline ids).resolve t).map (Node.update f ids.length rest) := by
  cases ids with
  | nil => exact absurd rfl h
  | cons id ids =>
    have hlen : (id :: ids).length = 1 + ids.length := by rw [List.length_cons]; omega
    rw [List.cons_append, update, NodePath.resolve, NodePath.resolve, Keyed.get?_modify_self, hlen]
    cases Keyed.get? id t.sections with
    | none => rfl
    | some s => exact Node.descend_update_above f rest ids 1 s

/-- An update does not change the ids of the sections. -/
theorem keys_sections_update (t : Tree) (p : NodePath) (f : Node → Node) :
    Keyed.keys (t.update p f).sections = Keyed.keys t.sections := by
  match p with
  | .courseInfo => rfl
  | .outline [] => rfl
  | .outline (id :: rest) => rw [update, Keyed.keys_modify]

/-! ## 4. When an update can be made -/

/-- **An update can be made exactly where the path leads somewhere.** -/
theorem exists_revise_iff (t : Tree) (p : NodePath) (f : Node → Revision) :
    (∃ r, t.revise p f = .ok r) ↔ ∃ n, p.resolve t = some n := by
  constructor
  · rintro ⟨r, hr⟩
    obtain ⟨n, hn, -⟩ := resolve_revise_self hr
    exact ⟨n, hn⟩
  · rintro ⟨n, hn⟩
    exact exists_revise_of_resolve hn f

/-- One outline is another in which the node at a path was replaced by what a function makes of it. -/
structure UpdatedAt (t : Tree) (p : NodePath) (f : Node → Node) (t' : Tree) : Prop where
  /-- At the path stands what the function makes of the node there. -/
  here : ∃ n, p.resolve t = some n ∧ p.resolve t' = some (f n)
  /-- Paths beside it lead where they led, and nowhere where they led nowhere. -/
  beside : ∀ q, p.contains q = false → q.contains p = false → q.resolve t' = q.resolve t
  /-- Every node above it is what it was, but for one entry of the map that leads down to it; the ids
  of that map are what they were. -/
  above : ∀ q n, q.contains p = true → q ≠ p → q.resolve t = some n →
    ∃ id m c, (ChildSlot.atDepth q.depth).get n = some m ∧
      (NodePath.outline (q.ids ++ [id])).contains p = true ∧
      (NodePath.outline (q.ids ++ [id])).resolve t' = some c ∧
      q.resolve t' = some ((ChildSlot.atDepth q.depth).set n (Keyed.put id c m)) ∧
      Keyed.keys (Keyed.put id c m) = Keyed.keys m
  /-- The ids of the sections are what they were. -/
  sections : Keyed.keys t'.sections = Keyed.keys t.sections

/-- **What an update leaves alone.** -/
theorem updatedAt_update {n : Node} (hn : p.resolve t = some n) (f : Node → Node) :
    t.UpdatedAt p f (t.update p f) where
  here := ⟨n, hn, by rw [resolve_update_self, hn, Option.map_some]⟩
  beside q hpq hqp := by
    have hne : q ≠ p := by
      rintro rfl
      rw [NodePath.contains_refl] at hpq
      cases hpq
    have hsame := t.map_resolve_update (φ := fun n : Node => n) (f := f) hne
      (fun h => by rw [hqp] at h; cases h) (fun h => by rw [hpq] at h; cases h)
    rwa [Option.map_id', Option.map_id'] at hsame
  above q x hqp hne hx := by
    obtain ⟨rfl, rfl⟩ | ⟨ids, rest, rfl, rfl⟩ := NodePath.contains_cases hqp
    · exact absurd rfl hne
    have hids : ids ≠ [] := by rintro rfl; cases hx
    cases rest with
    | nil => exact absurd (by rw [List.append_nil]) hne
    | cons id rest =>
      rw [NodePath.resolve_append hids, hx, Option.bind_some,
        NodePath.descend_cons_eq_some] at hn
      obtain ⟨m, c, hm, hc, -⟩ := hn
      have hput : Keyed.modify id (Node.update f (ids.length + 1) rest) m =
          Keyed.put id (Node.update f (ids.length + 1) rest c) m :=
        (Keyed.put_eq_modify hc).symm
      have habove : (NodePath.outline ids).resolve (t.update (.outline (ids ++ id :: rest)) f) =
          some ((ChildSlot.atDepth ids.length).set x
            (Keyed.put id (Node.update f (ids.length + 1) rest c) m)) := by
        rw [resolve_update_above hids, hx, Option.map_some, Node.update_cons_of_some hm, hput]
      refine ⟨id, m, Node.update f (ids.length + 1) rest c, hm, ?_, ?_, habove,
        Keyed.keys_put_of_mem (Keyed.mem_keys_of_get? hc)⟩
      · refine NodePath.contains_outline_iff.mpr ⟨rest, ?_⟩
        rw [NodePath.ids, List.append_assoc, List.singleton_append]
      · rw [NodePath.ids, NodePath.resolve_append hids, habove, Option.bind_some]
        exact NodePath.descend_cons_eq_some.mpr
          ⟨_, _, ChildSlot.get_set _ _ _, Keyed.get?_put_self _ _ _, NodePath.descend_nil ..⟩
  sections := keys_sections_update t p f

/-- **The laws of an update.**  For every outline, every path that is one, and every update, whether
it hands nodes on or not:

* it can be made exactly where the path leads somewhere, and fails for want of a node elsewhere;
* it replaces the node at the path and leaves everything else alone (`UpdatedAt`);
* when it makes of the node there the node itself, the outline is what it was;
* a second update at the path comes to the same as the one that does both;
* it can be made before or after an update at a path beside it, with the same outcome. -/
theorem revise_laws (t : Tree) {p : NodePath} (hp : p ≠ .outline []) (f : Node → Revision) :
    ((∃ r, t.revise p f = .ok r) ↔ ∃ n, p.resolve t = some n) ∧
    (p.resolve t = none → t.revise p f = .error (.nodeNotFound p.text)) ∧
    ∀ r, t.revise p f = .ok r →
      t.UpdatedAt p (fun n => (f n).node n) r.tree ∧
      ((∀ n, p.resolve t = some n → (f n).node n = n) → r.tree = t) ∧
      (∀ g both : Node → Revision,
        (∀ n, (both n).node n = (g ((f n).node n)).node ((f n).node n)) →
          ∃ r₂ r', r.tree.revise p g = .ok r₂ ∧ t.revise p both = .ok r' ∧ r₂.tree = r'.tree) ∧
      ∀ q g r₂, p.contains q = false → q.contains p = false → r.tree.revise q g = .ok r₂ →
        ∃ r' r₂', t.revise q g = .ok r' ∧ r'.tree.revise p f = .ok r₂' ∧ r₂'.tree = r₂.tree := by
  refine ⟨t.exists_revise_iff p f, fun hnone => revise_of_resolve_none hp hnone f, fun r hr => ?_⟩
  obtain ⟨n, hn, hn'⟩ := resolve_revise_self hr
  have htree := revise_eq_update hr
  refine ⟨?_, fun hsame => ?_, fun g both hboth => ?_, fun q g r₂ hpq hqp hr₂ => ?_⟩
  · rw [htree]
    exact updatedAt_update hn _
  · rw [htree]
    exact update_eq_self hsame
  · obtain ⟨r₂, hr₂⟩ := exists_revise_of_resolve hn' g
    obtain ⟨r', hr'⟩ := exists_revise_of_resolve hn both
    refine ⟨r₂, r', hr₂, hr', ?_⟩
    rw [revise_eq_update hr₂, revise_eq_update hr', htree, update_update_self, funext hboth]
  · -- what stands at the other path is the same before and after
    have hbeside := (updatedAt_update hn fun n => (f n).node n).beside q hpq hqp
    obtain ⟨x, hx, -⟩ := resolve_revise_self hr₂
    rw [htree, hbeside] at hx
    obtain ⟨r', hr'⟩ := exists_revise_of_resolve hx g
    have hback := (updatedAt_update hx fun n => (g n).node n).beside p hqp hpq
    rw [← revise_eq_update hr', hn] at hback
    obtain ⟨r₂', hr₂'⟩ := exists_revise_of_resolve hback f
    refine ⟨r', r₂', hr', hr₂', ?_⟩
    have hne : p ≠ q := by
      rintro rfl
      rw [NodePath.contains_refl] at hpq
      cases hpq
    rw [revise_eq_update hr₂', revise_eq_update hr', revise_eq_update hr₂, htree]
    exact t.update_comm hne (fun h => by rw [hpq] at h; cases h) (fun h => by rw [hqp] at h; cases h)

end Tree

namespace Sample

/-- An outline of two sections, one with a subsection. -/
def twoSections : Tree where
  courseInfo := .ofBlock "course" "course"
  sections :=
    [("S1", { usageKey := "first", children := some [("Q1", .ofBlock "sequential" "sequential")] }),
      ("S2", .ofBlock "second" "chapter")]

/-- Another payload for a node. -/
def named (name : String) (n : Node) : Revision :=
  .renewed { n with data := .string name }

end Sample

open Sample in
/-- A subsection and the section beside its own are named anew, and it does not matter which comes
first. -/
theorem Tree.revise_laws_beside :
    ∃ r r₂ r' r₂',
      twoSections.revise (.outline ["S1", "Q1"]) (named "One") = .ok r ∧
      r.tree.revise (.outline ["S2"]) (named "Two") = .ok r₂ ∧
      twoSections.revise (.outline ["S2"]) (named "Two") = .ok r' ∧
      r'.tree.revise (.outline ["S1", "Q1"]) (named "One") = .ok r₂' ∧ r₂'.tree = r₂.tree ∧
      (NodePath.outline ["S2"]).resolve r.tree = some (.ofBlock "second" "chapter") ∧
      twoSections.revise (.outline ["S1", "Q2"]) (named "None") = .error (.nodeNotFound "S1/Q2") := by
  obtain ⟨-, -, hlaws⟩ := twoSections.revise_laws (p := .outline ["S1", "Q1"])
    (fun h => nomatch h) (named "One")
  obtain ⟨hupdated, -, -, hbeside⟩ := hlaws _ rfl
  obtain ⟨r', r₂', hr', hr₂', hsame⟩ := hbeside (.outline ["S2"]) (named "Two") _ rfl rfl rfl
  obtain ⟨-, hfails, -⟩ := twoSections.revise_laws (p := .outline ["S1", "Q2"])
    (fun h => nomatch h) (named "None")
  exact ⟨_, _, r', r₂', rfl, rfl, hr', hr₂', hsame, hupdated.beside _ rfl rfl, hfails rfl⟩

end CourseReview
