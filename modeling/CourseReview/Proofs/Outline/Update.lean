import CourseReview.Proofs.Outline.Edit

/-!
# Updates as functions

`Tree.revise` fails where a path leads nowhere and says which nodes are new.  What it makes of an
outline is simpler than that: one node is replaced, and where there is none nothing happens.
`Tree.update` is that function, and `Tree.revise_eq_update` says that it is what `Tree.revise` does
where it succeeds.  Two updates can then be put side by side.

* An update is not seen from other paths, except from above, where a map is new, and from below,
  where the update itself decides (`Tree.map_resolve_update`).
* Two updates at different paths can be made in either order, unless the one above reaches into the
  maps that lead to the one below (`Tree.update_comm`).

An update that does not reach into maps changes fields of its own only (`OwnFields`); it is no matter
to it what stands below.
-/

namespace CourseReview

/-! ## 1. Entries of a map -/

namespace Keyed

variable {α : Type}

/-- The map with another value under a key, made from the old one; without the key, the map. -/
def modify (key : String) (f : α → α) : Keyed α → Keyed α
  | [] => []
  | (k, v) :: rest => if k = key then (k, f v) :: rest else (k, v) :: modify key f rest

/-- Putting a value made from the old one is a modification. -/
theorem put_eq_modify {key : String} {f : α → α} {v : α} :
    ∀ {m : Keyed α}, get? key m = some v → put key (f v) m = modify key f m
  | [], h => absurd h (by simp)
  | (k, w) :: rest, h => by
    rw [get?] at h
    rw [put, modify]
    split at h
    · rename_i hk
      rw [if_pos hk, if_pos hk, hk, Option.some.inj h]
    · rename_i hk
      rw [if_neg hk, if_neg hk, put_eq_modify h]

theorem get?_modify_self (key : String) (f : α → α) :
    ∀ m : Keyed α, get? key (modify key f m) = (get? key m).map f
  | [] => rfl
  | (k, v) :: rest => by
    rw [modify, get?]
    split
    · rename_i hk; rw [get?, if_pos hk, Option.map_some]
    · rename_i hk; rw [get?, if_neg hk, get?_modify_self]

theorem get?_modify_of_ne {key other : String} (h : other ≠ key) (f : α → α) :
    ∀ m : Keyed α, get? other (modify key f m) = get? other m
  | [] => rfl
  | (k, v) :: rest => by
    rw [modify]
    split
    · rename_i hk
      rw [get?, get?, if_neg (hk ▸ h.symm), if_neg (hk ▸ h.symm)]
    · rw [get?, get?, get?_modify_of_ne h]

/-- Two modifications of one entry are one. -/
theorem modify_modify_self (key : String) (f g : α → α) :
    ∀ m : Keyed α, modify key f (modify key g m) = modify key (fun v => f (g v)) m
  | [] => rfl
  | (k, v) :: rest => by
    rw [modify, modify]
    split
    · rename_i hk; rw [modify, if_pos hk]
    · rename_i hk; rw [modify, if_neg hk, modify_modify_self]

/-- Two modifications of different entries can be made in either order. -/
theorem modify_comm {key other : String} (h : key ≠ other) (f g : α → α) :
    ∀ m : Keyed α, modify key f (modify other g m) = modify other g (modify key f m)
  | [] => rfl
  | (k, v) :: rest => by
    by_cases hk : k = key
    · have ho : ¬ k = other := fun ho => h (hk.symm.trans ho)
      simp only [modify, if_pos hk, if_neg ho]
    · by_cases ho : k = other
      · simp only [modify, if_neg hk, if_pos ho]
      · simp only [modify, if_neg hk, if_neg ho, modify_comm h]

theorem modify_id (key : String) : ∀ m : Keyed α, modify key (fun v => v) m = m
  | [] => rfl
  | (k, v) :: rest => by
    rw [modify, modify_id]
    split <;> rfl

end Keyed

/-! ## 2. Below one node -/

theorem ChildSlot.set_set (slot : ChildSlot) (n : Node) (m m' : ChildMap) :
    slot.set (slot.set n m) m' = slot.set n m' := by
  cases slot <;> rfl

/-- An update that changes fields of the node itself: it keeps both maps, and does not look at
them. -/
structure OwnFields (f : Node → Node) : Prop where
  get : ∀ (slot : ChildSlot) (n : Node), slot.get (f n) = slot.get n
  set : ∀ (slot : ChildSlot) (n : Node) (m : ChildMap), f (slot.set n m) = slot.set (f n) m

theorem OwnFields.nothing : OwnFields fun n => n :=
  ⟨fun _ _ => rfl, fun _ _ _ => rfl⟩

namespace Node

/-- The node with another node at the end of the ids, made from the old one; where the ids lead
nowhere, the node. -/
def update (f : Node → Node) : (depth : Nat) → List String → Node → Node
  | _, [], n => f n
  | depth, id :: rest, n =>
    let slot := ChildSlot.atDepth depth
    match slot.get n with
    | none => n
    | some m => slot.set n (Keyed.modify id (update f (depth + 1) rest) m)

variable {f g : Node → Node} {depth : Nat} {id : String} {ids rest : List String} {n : Node}

theorem update_cons_of_none (h : (ChildSlot.atDepth depth).get n = none) :
    update f depth (id :: rest) n = n := by
  rw [update]
  simp only [h]

theorem update_cons_of_some {m : ChildMap} (h : (ChildSlot.atDepth depth).get n = some m) :
    update f depth (id :: rest) n =
      (ChildSlot.atDepth depth).set n (Keyed.modify id (update f (depth + 1) rest) m) := by
  rw [update]
  simp only [h]

/-- What an update makes of a node is what the function makes of it. -/
theorem revise_eq_update {f : Node → Revision} :
    ∀ {ids : List String} {depth : Nat} {n : Node} {r : Revision},
      revise f depth ids n = some r → r.node n = update (fun x => (f x).node x) depth ids n := by
  intro ids
  induction ids with
  | nil =>
    intro depth n r h
    rw [revise] at h
    obtain rfl := Option.some.inj h
    rw [update]
  | cons id rest ih =>
    intro depth n r h
    obtain ⟨m, c, rc, hm, hc, hrc, hnode⟩ := revise_cons h
    rw [hnode, update_cons_of_some hm, ih hrc,
      Keyed.put_eq_modify (f := update (fun x => (f x).node x) (depth + 1) rest) hc]

theorem update_id :
    ∀ (ids : List String) (depth : Nat) (n : Node), update (fun x => x) depth ids n = n
  | [], _, _ => rfl
  | id :: rest, depth, n => by
    cases hm : (ChildSlot.atDepth depth).get n with
    | none => rw [update_cons_of_none hm]
    | some m =>
      rw [update_cons_of_some hm, funext (update_id rest (depth + 1)), Keyed.modify_id,
        ChildSlot.set_get hm]

/-- An update of own fields and an update below can be made in either order. -/
theorem update_cons_of_ownFields (hf : OwnFields f) :
    f (update g depth (id :: rest) n) = update g depth (id :: rest) (f n) := by
  cases hm : (ChildSlot.atDepth depth).get n with
  | none => rw [update_cons_of_none hm, update_cons_of_none ((hf.get _ n).trans hm)]
  | some m =>
    rw [update_cons_of_some hm, update_cons_of_some ((hf.get _ n).trans hm), hf.set]

/-- **Two updates in either order.**  Where one ends above the other it must not reach into maps. -/
theorem update_comm (f g : Node → Node) :
    ∀ {ids others : List String} (depth : Nat) (n : Node), ids ≠ others →
      (ids <+: others → OwnFields f) → (others <+: ids → OwnFields g) →
        update f depth ids (update g depth others n) =
          update g depth others (update f depth ids n) := by
  intro ids
  induction ids with
  | nil =>
    intro others depth n hne hf _
    cases others with
    | nil => exact absurd rfl hne
    | cons other others => exact update_cons_of_ownFields (hf List.nil_prefix)
  | cons id ids ih =>
    intro others depth n hne hf hg
    cases others with
    | nil => exact (update_cons_of_ownFields (hg List.nil_prefix)).symm
    | cons other others =>
      cases hm : (ChildSlot.atDepth depth).get n with
      | none => rw [update_cons_of_none hm, update_cons_of_none hm, update_cons_of_none hm]
      | some m =>
        rw [update_cons_of_some hm, update_cons_of_some hm,
          update_cons_of_some (ChildSlot.get_set _ _ _),
          update_cons_of_some (ChildSlot.get_set _ _ _), ChildSlot.set_set, ChildSlot.set_set]
        congr 1
        by_cases ho : id = other
        · -- the same entry, so that the rest of the ids decides
          subst ho
          have hrest : ∀ c, update f (depth + 1) ids (update g (depth + 1) others c) =
              update g (depth + 1) others (update f (depth + 1) ids c) := fun c =>
            ih (depth + 1) c (fun h => hne (by rw [h]))
              (fun h => hf (List.cons_prefix_cons.mpr ⟨rfl, h⟩))
              (fun h => hg (List.cons_prefix_cons.mpr ⟨rfl, h⟩))
          rw [Keyed.modify_modify_self, Keyed.modify_modify_self, funext hrest]
        · exact Keyed.modify_comm ho _ _ m

/-- An update seen from the ids updated: they lead to the node that it has made. -/
theorem descend_update_self (f : Node → Node) :
    ∀ (ids : List String) (depth : Nat) (n : Node),
      NodePath.descend depth ids (update f depth ids n) = (NodePath.descend depth ids n).map f := by
  intro ids
  induction ids with
  | nil => intro depth n; rw [update, NodePath.descend_nil, NodePath.descend_nil, Option.map_some]
  | cons id rest ih =>
    intro depth n
    cases hm : (ChildSlot.atDepth depth).get n with
    | none => rw [update_cons_of_none hm, NodePath.descend_cons, hm, Option.bind_none, Option.map_none]
    | some m =>
      rw [update_cons_of_some hm, NodePath.descend_cons, NodePath.descend_cons, hm, ChildSlot.get_set,
        Option.bind_some, Option.bind_some, Keyed.get?_modify_self]
      cases Keyed.get? id m with
      | none => rfl
      | some c => exact ih (depth + 1) c

/-- **An update seen from elsewhere.**  A property of the node at other ids is what it was: when these
lead on from the ids updated, because the update does not reach into maps; when they lead up to
them, for a property that does not look at maps. -/
theorem map_descend_update {β : Type} {φ : Node → β} (f : Node → Node) :
    ∀ {ids others : List String} (depth : Nat) (n : Node), others ≠ ids →
      (others <+: ids → ∀ (slot : ChildSlot) n m, φ (slot.set n m) = φ n) →
      (ids <+: others → OwnFields f) →
        (NodePath.descend depth others (update f depth ids n)).map φ =
          (NodePath.descend depth others n).map φ := by
  intro ids
  induction ids with
  | nil =>
    intro others depth n hne _ hf
    cases others with
    | nil => exact absurd rfl hne
    | cons other others =>
      rw [update, NodePath.descend_cons, NodePath.descend_cons, (hf List.nil_prefix).get]
  | cons id ids ih =>
    intro others depth n hne hφ hf
    cases hm : (ChildSlot.atDepth depth).get n with
    | none => rw [update_cons_of_none hm]
    | some m =>
      rw [update_cons_of_some hm]
      cases others with
      | nil =>
        rw [NodePath.descend_nil, NodePath.descend_nil, Option.map_some, Option.map_some,
          hφ List.nil_prefix]
      | cons other others =>
        rw [NodePath.descend_cons, NodePath.descend_cons, hm, ChildSlot.get_set, Option.bind_some,
          Option.bind_some]
        by_cases ho : other = id
        · subst ho
          rw [Keyed.get?_modify_self]
          cases Keyed.get? other m with
          | none => rfl
          | some c =>
            exact ih (depth + 1) c (fun h => hne (by rw [h]))
              (fun h => hφ (List.cons_prefix_cons.mpr ⟨rfl, h⟩))
              (fun h => hf (List.cons_prefix_cons.mpr ⟨rfl, h⟩))
        · rw [Keyed.get?_modify_of_ne ho]

end Node

/-! ## 3. The same for whole outlines -/

namespace Tree

/-- The outline with another node at a path, made from the old one; where the path leads nowhere,
the outline. -/
def update (t : Tree) (p : NodePath) (f : Node → Node) : Tree :=
  match p with
  | .courseInfo => { t with courseInfo := f t.courseInfo }
  | .outline [] => t
  | .outline (id :: rest) => { t with sections := Keyed.modify id (Node.update f 1 rest) t.sections }

/-- **What an update makes of an outline** is what the function makes of it. -/
theorem revise_eq_update {t : Tree} {p : NodePath} {f : Node → Revision} {r : TreeRevision}
    (h : t.revise p f = .ok r) : r.tree = t.update p fun n => (f n).node n := by
  match p, h with
  | .courseInfo, h =>
    rw [revise] at h
    obtain rfl := Except.ok.inj h
    rfl
  | .outline [], h => rw [revise] at h; cases h
  | .outline (id :: rest), h =>
    obtain ⟨s, rs, hs, hrs, htree⟩ := revise_outline_cons h
    rw [htree, update, Node.revise_eq_update hrs, Keyed.put_eq_modify
      (f := Node.update (fun n => (f n).node n) 1 rest) hs]

theorem update_id (t : Tree) (p : NodePath) : t.update p (fun n => n) = t := by
  match p with
  | .courseInfo => rfl
  | .outline [] => rfl
  | .outline (id :: rest) =>
    rw [update, funext (Node.update_id rest 1), Keyed.modify_id]

/-- **Two updates in either order.** -/
theorem update_comm (t : Tree) {p q : NodePath} {f g : Node → Node} (hne : p ≠ q)
    (hf : p.contains q = true → OwnFields f) (hg : q.contains p = true → OwnFields g) :
    (t.update q g).update p f = (t.update p f).update q g := by
  match p, q, hne, hf, hg with
  | .courseInfo, .courseInfo, hne, _, _ => exact absurd rfl hne
  | .courseInfo, .outline [], _, _, _ => rfl
  | .courseInfo, .outline (_ :: _), _, _, _ => rfl
  | .outline [], _, _, _, _ => rfl
  | .outline (_ :: _), .courseInfo, _, _, _ => rfl
  | .outline (_ :: _), .outline [], _, _, _ => rfl
  | .outline (id :: ids), .outline (other :: others), hne, hf, hg =>
    rw [NodePath.contains_outline_iff] at hf hg
    simp only [update]
    congr 1
    by_cases ho : id = other
    · subst ho
      have hrest : ∀ c, Node.update f 1 ids (Node.update g 1 others c) =
          Node.update g 1 others (Node.update f 1 ids c) := fun c =>
        Node.update_comm f g 1 c (fun h => hne (by rw [h]))
          (fun h => hf (List.cons_prefix_cons.mpr ⟨rfl, h⟩))
          (fun h => hg (List.cons_prefix_cons.mpr ⟨rfl, h⟩))
      rw [Keyed.modify_modify_self, Keyed.modify_modify_self, funext hrest]
    · exact Keyed.modify_comm ho _ _ _

/-- **An update seen from the path updated.** -/
theorem resolve_update_self (t : Tree) (p : NodePath) (f : Node → Node) :
    p.resolve (t.update p f) = (p.resolve t).map f := by
  match p with
  | .courseInfo => rfl
  | .outline [] => rfl
  | .outline (id :: rest) =>
    rw [update, NodePath.resolve, NodePath.resolve, Keyed.get?_modify_self]
    cases Keyed.get? id t.sections with
    | none => rfl
    | some s => exact Node.descend_update_self f rest 1 s

/-- **An update seen from another path.** -/
theorem map_resolve_update {β : Type} {φ : Node → β} (t : Tree) {p q : NodePath} {f : Node → Node}
    (hne : q ≠ p)
    (hφ : q.contains p = true → ∀ (slot : ChildSlot) n m, φ (slot.set n m) = φ n)
    (hf : p.contains q = true → OwnFields f) :
    (q.resolve (t.update p f)).map φ = (q.resolve t).map φ := by
  match p, q, hne, hφ, hf with
  | .courseInfo, .courseInfo, hne, _, _ => exact absurd rfl hne
  | .courseInfo, .outline [], _, _, _ => rfl
  | .courseInfo, .outline (_ :: _), _, _, _ => rfl
  | .outline [], _, _, _, _ => rfl
  | .outline (_ :: _), .courseInfo, _, _, _ => rfl
  | .outline (_ :: _), .outline [], _, _, _ => rfl
  | .outline (id :: ids), .outline (other :: others), hne, hφ, hf =>
    rw [NodePath.contains_outline_iff] at hφ hf
    rw [update, NodePath.resolve, NodePath.resolve]
    by_cases ho : other = id
    · subst ho
      rw [Keyed.get?_modify_self]
      cases Keyed.get? other t.sections with
      | none => rfl
      | some s =>
        exact Node.map_descend_update f 1 s (fun h => hne (by rw [h]))
          (fun h => hφ (List.cons_prefix_cons.mpr ⟨rfl, h⟩))
          (fun h => hf (List.cons_prefix_cons.mpr ⟨rfl, h⟩))
    · rw [Keyed.get?_modify_of_ne ho]

end Tree

end CourseReview
