import Mathlib.Logic.Function.Basic
import CourseReview.Proofs.Outline.UnitPaths

/-!
# Outlines with content put in place

Content is put in place for one unit at a time, by an update that makes a new outline.  Here an outline
is stocked with the content of all its units at once: every node stays as it is, in its place, but for
the units that there is content for (`Tree.stock`).

Putting the content of one more unit in place is stocking the outline with that content, too
(`Tree.update_stock`).  So it does not matter in which order content comes.
-/

namespace CourseReview

/-! ## 1. Maps entry by entry -/

namespace Keyed

variable {α : Type}

/-- The map with another value under every key, made from the key and the old value. -/
def mapEntries (f : String → α → α) (m : Keyed α) : Keyed α :=
  m.map fun e => (e.1, f e.1 e.2)

theorem mapEntries_cons (f : String → α → α) (key : String) (v : α) (m : Keyed α) :
    mapEntries f ((key, v) :: m) = (key, f key v) :: mapEntries f m := rfl

theorem keys_mapEntries (f : String → α → α) (m : Keyed α) : keys (mapEntries f m) = keys m := by
  rw [keys, mapEntries, List.map_map]
  rfl

theorem get?_mapEntries (f : String → α → α) (key : String) :
    ∀ m : Keyed α, get? key (mapEntries f m) = (get? key m).map (f key)
  | [] => rfl
  | (k, v) :: m => by
    rw [mapEntries_cons, get?, get?]
    split
    · rename_i hk; rw [hk, Option.map_some]
    · exact get?_mapEntries f key m

theorem mapEntries_congr {f g : String → α → α} :
    ∀ {m : Keyed α}, (∀ e ∈ m, f e.1 e.2 = g e.1 e.2) → mapEntries f m = mapEntries g m :=
  fun {m} h => List.map_congr_left fun e he => by rw [h e he]

/-- Modifying one entry is making that one in another way from the first. -/
theorem modify_mapEntries {f g : String → α → α} {key : String} {step : α → α} :
    ∀ {m : Keyed α}, Distinct m → (∀ v, (key, v) ∈ m → step (f key v) = g key v) →
      (∀ k v, k ≠ key → f k v = g k v) → modify key step (mapEntries f m) = mapEntries g m
  | [], _, _, _ => rfl
  | (k, v) :: m, hdistinct, hstep, hother => by
    obtain ⟨hnew, hdistinct⟩ := List.nodup_cons.mp hdistinct
    rw [mapEntries_cons, mapEntries_cons, modify]
    split
    · rename_i hk
      subst hk
      have hrest : mapEntries f m = mapEntries g m := by
        refine mapEntries_congr fun e he => hother _ _ ?_
        rintro rfl
        exact hnew (List.mem_map.mpr ⟨e, he, rfl⟩)
      rw [hstep v List.mem_cons_self, hrest]
    · rename_i hk
      have hstep : ∀ w, (key, w) ∈ m → step (f key w) = g key w :=
        fun w hw => hstep w (List.mem_cons_of_mem _ hw)
      rw [hother k v hk, modify_mapEntries hdistinct hstep hother]

end Keyed

/-! ## 2. Stocking a node -/

namespace Node

/-- The node with content for the units so many levels below it; the ids are those of its path. -/
def stock (content : NodePath → Option ChildMap) : (levels : Nat) → List String → Node → Node
  | 0, ids, n =>
    match content (.outline ids) with
    | none => n
    | some m => { n with units := some m }
  | levels + 1, ids, n =>
    { n with
      children := n.children.map <|
        Keyed.mapEntries fun id c => stock content levels (ids ++ [id]) c }

variable {content content' : NodePath → Option ChildMap}

/-- Only content below the node matters. -/
theorem stock_congr : ∀ {levels : Nat} {ids : List String},
    (∀ rest, content (.outline (ids ++ rest)) = content' (.outline (ids ++ rest))) →
      ∀ n : Node, stock content levels ids n = stock content' levels ids n := by
  intro levels
  induction levels with
  | zero =>
    intro ids h n
    have hhere := h []
    rw [List.append_nil] at hhere
    rw [stock, stock, hhere]
  | succ levels ih =>
    intro ids h n
    have hbelow : ∀ id, stock content levels (ids ++ [id]) = stock content' levels (ids ++ [id]) :=
      fun id => funext <| ih fun rest => by rw [List.append_assoc]; exact h ([id] ++ rest)
    rw [stock, stock]
    simp only [hbelow]

theorem stock_nothing : ∀ (levels : Nat) (ids : List String) (n : Node),
    stock (fun _ => none) levels ids n = n := by
  intro levels
  induction levels with
  | zero => intro ids n; rfl
  | succ levels ih =>
    intro ids n
    have hsame : ∀ m : ChildMap, Keyed.mapEntries (fun id c =>
        stock (fun _ => none) levels (ids ++ [id]) c) m = m := by
      intro m
      simp only [ih, Keyed.mapEntries, List.map_id']
    cases n
    rw [stock, funext hsame, Option.map_id']

/-- **One more unit stocked.** -/
theorem update_stock (content : NodePath → Option ChildMap) (m : ChildMap) {rest : List String} :
    ∀ (ids : List String) {n : Node}, ids.length + rest.length = unitDepth → n.DistinctIds rest.length →
      update (ChildSlot.units.set · m) ids.length rest (stock content rest.length ids n) =
        stock (Function.update content (.outline (ids ++ rest)) (some m)) rest.length ids n := by
  induction rest with
  | nil =>
    intro ids n _ _
    rw [update, List.length_nil, stock, stock, List.append_nil, Function.update_self]
    cases content (.outline ids) <;> rfl
  | cons id rest ih =>
    intro ids n hlength hdistinct
    rw [List.length_cons] at hlength hdistinct ⊢
    have hslot : ChildSlot.atDepth ids.length = .children := ChildSlot.atDepth_of_lt (by omega)
    cases hm : n.children with
    | none =>
      have hnone : (ChildSlot.atDepth ids.length).get (stock content (rest.length + 1) ids n) = none := by
        rw [hslot, stock, hm]
        rfl
      rw [update_cons_of_none hnone, stock, stock, hm]
      rfl
    | some es =>
      obtain ⟨hkeys, hbelow⟩ := hdistinct es hm
      have hsome : (ChildSlot.atDepth ids.length).get (stock content (rest.length + 1) ids n) =
          some (Keyed.mapEntries (fun id c => stock content rest.length (ids ++ [id]) c) es) := by
        rw [hslot, stock, hm]
        rfl
      have hothers : ∀ k c, k ≠ id → stock content rest.length (ids ++ [k]) c =
          stock (Function.update content (.outline (ids ++ id :: rest)) (some m)) rest.length
            (ids ++ [k]) c := by
        refine fun k c hk => stock_congr (fun rest' => (Function.update_of_ne ?_ ..).symm) c
        rw [Ne, NodePath.outline.injEq, List.append_assoc, List.append_cancel_left_eq]
        exact fun h => hk (List.cons.inj h).1
      have hids : (ids ++ [id]).length = ids.length + 1 := List.length_append
      have hhere : ∀ c, (id, c) ∈ es →
          update (ChildSlot.units.set · m) (ids.length + 1) rest
              (stock content rest.length (ids ++ [id]) c) =
            stock (Function.update content (.outline (ids ++ id :: rest)) (some m)) rest.length
              (ids ++ [id]) c := by
        intro c hc
        have hstep := ih (ids ++ [id]) (by omega) (hbelow _ hc)
        rwa [hids, List.append_assoc] at hstep
      rw [update_cons_of_some hsome, hslot, Keyed.modify_mapEntries hkeys hhere hothers, stock, stock,
        hm]
      rfl

/-- **A stocked node seen from its place**: ids lead to what they led to, which is stocked as well. -/
theorem descend_stock (content : NodePath → Option ChildMap) (levels : Nat) {rest : List String} :
    ∀ (ids : List String) (n : Node), ids.length + rest.length + levels = unitDepth →
      NodePath.descend ids.length rest (stock content (rest.length + levels) ids n) =
        (NodePath.descend ids.length rest n).map (stock content levels (ids ++ rest)) := by
  induction rest with
  | nil =>
    intro ids n _
    rw [NodePath.descend_nil, NodePath.descend_nil, List.length_nil, Nat.zero_add, List.append_nil,
      Option.map_some]
  | cons id rest ih =>
    intro ids n hlength
    rw [List.length_cons] at hlength ⊢
    have hdepth : ids.length < unitDepth := by omega
    have hlevels : rest.length + 1 + levels = rest.length + levels + 1 := by omega
    have hids : (ids ++ [id]).length = ids.length + 1 := List.length_append
    rw [NodePath.descend_cons, NodePath.descend_cons, ChildSlot.atDepth_of_lt hdepth,
      ChildSlot.get, ChildSlot.get, hlevels, stock]
    cases n.children with
    | none => rfl
    | some es =>
      rw [Option.map_some, Option.bind_some, Option.bind_some, Keyed.get?_mapEntries]
      cases Keyed.get? id es with
      | none => rfl
      | some c =>
        have hstep := ih (ids ++ [id]) c (by omega)
        rwa [hids, List.append_assoc] at hstep

/-- A stocked node has the ids that it had. -/
theorem DistinctIds.stock (content : NodePath → Option ChildMap) :
    ∀ {levels : Nat} {ids : List String} {n : Node}, n.DistinctIds levels →
      (Node.stock content levels ids n).DistinctIds levels := by
  intro levels
  induction levels with
  | zero => intro _ _ _; trivial
  | succ levels ih =>
    intro ids n h m' hm'
    obtain ⟨m, hm, rfl⟩ := Option.map_eq_some_iff.mp hm'
    obtain ⟨hkeys, hbelow⟩ := h m hm
    refine ⟨by rw [Keyed.Distinct, Keyed.keys_mapEntries]; exact hkeys, fun e he => ?_⟩
    obtain ⟨e₀, he₀, rfl⟩ := List.mem_map.mp he
    exact ih (hbelow e₀ he₀)

/-- A stocked node has the units that it had. -/
theorem unitIds_stock (content : NodePath → Option ChildMap) :
    ∀ (levels : Nat) (ids : List String) (n : Node),
      (Node.stock content levels ids n).unitIds levels = n.unitIds levels := by
  intro levels
  induction levels with
  | zero => intro ids n; rfl
  | succ levels ih =>
    intro ids n
    rw [stock, unitIds, unitIds]
    cases n.children with
    | none => rfl
    | some m => simp [Keyed.mapEntries, List.flatMap_map, ih]

theorem unitPaths_stock (content : NodePath → Option ChildMap) {levels : Nat} {ids : List String}
    (n : Node) (hlength : ids.length + levels = unitDepth) :
    (Node.stock content levels ids n).unitPaths (.outline ids) = n.unitPaths (.outline ids) := by
  rw [unitPaths_eq _ hlength, unitPaths_eq _ hlength, unitIds_stock]

end Node

/-! ## 3. Stocking an outline -/

namespace Tree

variable {content : NodePath → Option ChildMap} {t : Tree} {q : NodePath}

/-- **The outline with content for its units.**  Every unit that there is content for has just that,
whatever it had before; all other nodes, and the order of all of them, are as they were. -/
def stock (content : NodePath → Option ChildMap) (t : Tree) : Tree :=
  { t with
    sections := Keyed.mapEntries (fun id n => n.stock content (unitDepth - 1) [id]) t.sections }

theorem stock_nothing (t : Tree) : t.stock (fun _ => none) = t := by
  have hsame : Keyed.mapEntries (fun id (n : Node) => n.stock (fun _ => none) (unitDepth - 1) [id])
      t.sections = t.sections := by
    simp only [Node.stock_nothing, Keyed.mapEntries, List.map_id']
  rw [stock, hsame]

/-- **Content put in place for one more unit.** -/
theorem update_stock (content : NodePath → Option ChildMap) (ht : t.DistinctIds)
    (hunit : q.isUnit = true) (m : ChildMap) :
    (t.stock content).update q (ChildSlot.units.set · m) =
      t.stock (Function.update content q (some m)) := by
  rw [NodePath.isUnit, beq_iff_eq] at hunit
  obtain _ | _ | ⟨id, rest⟩ := q
  · cases hunit
  · cases hunit
  · have hrest : rest.length = unitDepth - 1 := by
      rw [NodePath.depth, List.length_cons] at hunit
      omega
    have hothers : ∀ k c, k ≠ id → Node.stock content (unitDepth - 1) [k] c =
        Node.stock (Function.update content (.outline (id :: rest)) (some m)) (unitDepth - 1) [k] c := by
      refine fun k c hk => Node.stock_congr (fun rest' => (Function.update_of_ne ?_ ..).symm) c
      rw [Ne, NodePath.outline.injEq]
      exact fun h => hk (List.cons.inj h).1
    have hhere : ∀ c, (id, c) ∈ t.sections →
        Node.update (ChildSlot.units.set · m) 1 rest (Node.stock content (unitDepth - 1) [id] c) =
          Node.stock (Function.update content (.outline (id :: rest)) (some m)) (unitDepth - 1)
            [id] c := by
      intro c hc
      have hstep := Node.update_stock content m [id]
        (by rw [hrest]; rfl) (hrest ▸ ht.below _ hc)
      rwa [hrest] at hstep
    rw [update, stock, stock]
    simp only [Keyed.modify_mapEntries ht.sections hhere hothers]

/-- **A stocked outline seen from a path** that leads to a unit or to a node above one. -/
theorem resolve_stock (content : NodePath → Option ChildMap) (t : Tree) {ids : List String}
    {levels : Nat} (hlength : ids.length + levels = unitDepth) :
    (NodePath.outline ids).resolve (t.stock content) =
      ((NodePath.outline ids).resolve t).map (Node.stock content levels ids) := by
  cases ids with
  | nil => rfl
  | cons id rest =>
    rw [List.length_cons] at hlength
    rw [NodePath.resolve, NodePath.resolve, stock, Keyed.get?_mapEntries]
    have hlevels : unitDepth - 1 = rest.length + levels := by omega
    cases Keyed.get? id t.sections with
    | none => rfl
    | some c =>
      rw [hlevels]
      exact Node.descend_stock content levels [id] c (by rw [List.length_singleton]; omega)

/-- A unit of a stocked outline: it has the content that there is for it, if there is any. -/
theorem resolve_stock_unit (content : NodePath → Option ChildMap) (t : Tree)
    (hunit : q.isUnit = true) :
    q.resolve (t.stock content) =
      (q.resolve t).map fun n => (content q).elim n (ChildSlot.units.set n) := by
  rw [NodePath.isUnit, beq_iff_eq] at hunit
  cases q with
  | courseInfo => cases hunit
  | outline ids =>
    have hstock : Node.stock content 0 ids =
        fun n => (content (.outline ids)).elim n (ChildSlot.units.set n) := by
      funext n
      rw [Node.stock]
      cases content (.outline ids) <;> rfl
    have hlength : ids.length + 0 = unitDepth := hunit
    rw [resolve_stock content t hlength, hstock]

/-- Stocking loses no node above the content. -/
theorem LeadsToUnits.stock {p : NodePath} (hp : t.LeadsToUnits p)
    (content : NodePath → Option ChildMap) : (t.stock content).LeadsToUnits p := by
  obtain ⟨hdepth, n, hn⟩ := hp
  refine ⟨hdepth, ?_⟩
  cases p with
  | courseInfo => exact ⟨t.courseInfo, rfl⟩
  | outline ids =>
    obtain ⟨levels, hlevels⟩ := Nat.exists_eq_add_of_le hdepth
    exact ⟨_, by rw [resolve_stock content t hlevels.symm, hn, Option.map_some]⟩

/-- A stocked outline has the units that it had. -/
theorem unitPaths_stock (content : NodePath → Option ChildMap) {p : NodePath}
    (hdepth : p.depth ≤ unitDepth) : (t.stock content).unitPaths p = t.unitPaths p := by
  cases p with
  | courseInfo =>
    have hroot : (t.stock content).root = t.root.stock content unitDepth [] := rfl
    rw [unitPaths_courseInfo, unitPaths_courseInfo, hroot, Node.unitPaths_stock content _ rfl]
  | outline ids =>
    obtain ⟨levels, hlevels⟩ := Nat.exists_eq_add_of_le hdepth
    have hrequire : (NodePath.outline ids).require (t.stock content) =
        ((NodePath.outline ids).require t).map (Node.stock content levels ids) := by
      rw [NodePath.require, NodePath.require, resolve_stock content t hlevels.symm]
      cases (NodePath.outline ids).resolve t <;> rfl
    rw [unitPaths, unitPaths, hrequire]
    cases (NodePath.outline ids).require t with
    | error e => rfl
    | ok n => exact Node.unitPaths_stock content n hlevels.symm

/-- **The units still without content** are those that there is none for. -/
theorem missingUnits_stock (ht : t.DistinctIds) {p : NodePath} (hp : t.LeadsToUnits p) :
    (t.stock content).missingUnits p = (t.missingUnits p).filter fun q => (content q).isNone := by
  obtain ⟨paths, hpaths, -, hmem⟩ := unitPaths_ok ht hp
  rw [missingUnits, missingUnits, unitPaths_stock content hp.1, hpaths]
  dsimp only
  rw [List.filter_filter]
  refine List.filter_congr fun q hq => ?_
  obtain ⟨hunit, -, n, hn⟩ := (hmem q).mp hq
  rw [resolve_stock_unit content t hunit, hn]
  cases content q <;> rfl

/-- A stocked outline has the ids that it had. -/
theorem DistinctIds.stock (ht : t.DistinctIds) (content : NodePath → Option ChildMap) :
    (t.stock content).DistinctIds where
  sections := by
    rw [Tree.stock, Keyed.Distinct, Keyed.keys_mapEntries]
    exact ht.sections
  below e he := by
    obtain ⟨e₀, he₀, rfl⟩ := List.mem_map.mp he
    exact (ht.below e₀ he₀).stock content

end Tree

namespace Outline

/-- The ids are distinct on both sides. -/
structure DistinctIds (o : Outline) : Prop where
  rerun : o.rerun.DistinctIds
  base : o.base.DistinctIds

/-- **Both outlines with content for their units**, each side with its own. -/
def stock (content : NodePath → Option UnitComponents) (o : Outline) : Outline where
  rerun := o.rerun.stock fun q => (content q).map (·.rerun.getD [])
  base := o.base.stock fun q => (content q).map (·.base.getD [])

theorem stock_nothing (o : Outline) : o.stock (fun _ => none) = o := by
  rw [stock]
  simp only [Option.map_none, Tree.stock_nothing]

theorem DistinctIds.stock {o : Outline} (h : o.DistinctIds)
    (content : NodePath → Option UnitComponents) : (o.stock content).DistinctIds :=
  ⟨h.rerun.stock _, h.base.stock _⟩

end Outline

end CourseReview
