import CourseReview.Outline.Units
import CourseReview.Proofs.Outline.Update

/-!
# The units of an outline

Units are listed by a walk through the maps of an outline, and looked up by ids one after another.
This file settles that the list has just the paths that lead to a unit, each of them once and in the
order of the outline (`Tree.unitPaths_in_order`), provided that the maps have no id twice
(`Tree.DistinctIds`).

The walk never fails above the units: it comes to the ids in the maps on the way (`Node.unitIds`,
`Node.unitPaths_eq`).  These are the ids that lead to a unit (`Node.mem_unitIds_iff`), and they come
by the positions that they have in the maps (`Node.pairwise_unitIds`).

Of these units, those without content are the ones still to be fetched (`Tree.missingUnits`,
`Tree.missingUnits_spec`).
-/

namespace CourseReview

/-! ## 1. Entries of a map -/

namespace Keyed

variable {α : Type}

/-- A value that is found is in the map. -/
theorem mem_of_get? {key : String} {v : α} :
    ∀ {m : Keyed α}, get? key m = some v → (key, v) ∈ m
  | [], h => absurd h (by simp)
  | (k, w) :: rest, h => by
    rw [get?] at h
    split at h
    · rename_i hk
      rw [hk, Option.some.inj h]
      exact List.mem_cons_self
    · exact List.mem_cons_of_mem _ (mem_of_get? h)

/-- A key that is found under distinct keys is found nowhere else. -/
theorem Distinct.get?_of_mem {key : String} {v : α} :
    ∀ {m : Keyed α}, Distinct m → (key, v) ∈ m → get? key m = some v
  | [], _, h => nomatch h
  | (k, w) :: rest, hm, h => by
    obtain ⟨hnew, hrest⟩ := List.nodup_cons.mp hm
    rw [get?]
    rcases List.mem_cons.mp h with heq | h
    · obtain ⟨rfl, rfl⟩ := Prod.mk.inj heq
      rw [if_pos rfl]
    · have hne : ¬ k = key := by
        rintro rfl
        exact hnew (List.mem_map.mpr ⟨_, h, rfl⟩)
      rw [if_neg hne, Distinct.get?_of_mem hrest h]

theorem get?_eq_none_of_notMem {key : String} {m : Keyed α} (h : key ∉ keys m) :
    get? key m = none := by
  rwa [← Option.not_isSome_iff_eq_none, get?_isSome_iff]

end Keyed

/-! ## 2. Distinct ids -/

/-- Whether no id is twice in one of the maps on the way from the node to what is that many levels
below it. -/
def Node.DistinctIds : (levels : Nat) → Node → Prop
  | 0, _ => True
  | levels + 1, n => ∀ m, n.children = some m → Keyed.Distinct m ∧ ∀ e ∈ m, DistinctIds levels e.2

/-- Whether no id is twice in one of the maps on the way to the units of the outline.  A map has each of
its ids once, but as a list of entries it does not say so itself. -/
structure Tree.DistinctIds (t : Tree) : Prop where
  sections : Keyed.Distinct t.sections
  below : ∀ e ∈ t.sections, e.2.DistinctIds (unitDepth - 1)

theorem Node.distinctIds_succ {levels : Nat} {n : Node} : n.DistinctIds (levels + 1) ↔
    (Keyed.keys (n.children.getD [])).Nodup ∧ ∀ e ∈ n.children.getD [], e.2.DistinctIds levels := by
  rw [DistinctIds]
  cases n.children with
  | none => exact iff_of_true (fun _ h => nomatch h) ⟨.nil, fun _ h => nomatch h⟩
  | some m =>
    simp only [Option.some.injEq, forall_eq', Option.getD_some]
    rfl

instance Node.decidableDistinctIds : ∀ (levels : Nat) (n : Node), Decidable (n.DistinctIds levels)
  | 0, _ => .isTrue trivial
  | levels + 1, _ =>
    have : ∀ e : String × Node, Decidable (e.2.DistinctIds levels) := fun e =>
      decidableDistinctIds levels e.2
    decidable_of_iff _ distinctIds_succ.symm

theorem Tree.distinctIds_iff {t : Tree} : t.DistinctIds ↔
    (Keyed.keys t.sections).Nodup ∧ ∀ e ∈ t.sections, e.2.DistinctIds (unitDepth - 1) :=
  ⟨fun h => ⟨h.sections, h.below⟩, fun ⟨hsections, hbelow⟩ => ⟨hsections, hbelow⟩⟩

instance (t : Tree) : Decidable t.DistinctIds :=
  decidable_of_iff _ Tree.distinctIds_iff.symm

/-- Above a unit every step down is one through `children`. -/
theorem ChildSlot.atDepth_of_lt {depth : Nat} (h : depth < unitDepth) :
    ChildSlot.atDepth depth = .children := by
  rw [atDepth, if_neg (Nat.not_le.mpr h)]

/-- Ids that are distinct on the way to the units are so on the way from a node in between. -/
theorem Node.DistinctIds.descend {levels : Nat} {rest : List String} :
    ∀ {depth : Nat} {n x : Node}, n.DistinctIds (rest.length + levels) →
      depth + rest.length + levels ≤ unitDepth → NodePath.descend depth rest n = some x →
      x.DistinctIds levels := by
  induction rest with
  | nil =>
    intro depth n x hn _ hx
    rw [NodePath.descend_nil] at hx
    obtain rfl := Option.some.inj hx
    rwa [List.length_nil, Nat.zero_add] at hn
  | cons id rest ih =>
    intro depth n x hn hdepth hx
    rw [List.length_cons] at hn hdepth
    have hlevels : rest.length + 1 + levels = rest.length + levels + 1 := by omega
    have hslot : ChildSlot.atDepth depth = .children := ChildSlot.atDepth_of_lt (by omega)
    obtain ⟨m, c, hm, hc, hx⟩ := NodePath.descend_cons_eq_some.mp hx
    rw [hslot] at hm
    rw [hlevels] at hn
    exact ih ((hn m hm).2 _ (Keyed.mem_of_get? hc)) (by omega) hx

/-- The outline as one node, with the sections for its children. -/
def Tree.root (t : Tree) : Node :=
  { t.courseInfo with children := some t.sections }

theorem NodePath.resolve_eq_root {ids : List String} (h : ids ≠ []) (t : Tree) :
    (outline ids).resolve t = descend 0 ids t.root := by
  cases ids with
  | nil => exact absurd rfl h
  | cons id rest => rw [descend_cons]; rfl

theorem Tree.DistinctIds.root {t : Tree} (ht : t.DistinctIds) : t.root.DistinctIds unitDepth := by
  intro m hm
  obtain rfl := Option.some.inj hm
  exact ⟨ht.sections, ht.below⟩

/-! ## 3. The ids that lead to units -/

/-- Above the units a path can be led on. -/
theorem NodePath.child_above {ids : List String} (h : ids.length < unitDepth) (id : String) :
    (outline ids).child id = .ok (.outline (ids ++ [id])) := by
  have hdepth : ¬ maxDepth ≤ ids.length := by
    rw [unitDepth] at h
    rw [maxDepth]
    omega
  rw [child, if_neg hdepth]

namespace Node

/-- The ids that lead from the node to the units so many levels below it, in the order of the outline. -/
def unitIds : (levels : Nat) → Node → List (List String)
  | 0, _ => [[]]
  | levels + 1, n => (n.children.getD []).flatMap fun e => (unitIds levels e.2).map (e.1 :: ·)

/-- A unit is the only one at or below it. -/
theorem unitPaths_self {ids : List String} (h : ids.length = unitDepth) (n : Node) :
    n.unitPaths (.outline ids) = .ok [.outline ids] := by
  have hunit : (NodePath.outline ids).isUnit = true := beq_iff_eq.mpr h
  cases n
  rw [unitPaths, if_pos hunit]

/-- Elsewhere, those of the node are those of its children. -/
theorem unitPaths_of_not_isUnit {p : NodePath} (h : p.isUnit = false) (n : Node) :
    n.unitPaths p = unitPathsMap p n.children := by
  cases n
  rw [unitPaths, h, if_neg Bool.false_ne_true]

theorem unitPaths_above {ids : List String} (h : ids.length < unitDepth) (n : Node) :
    n.unitPaths (.outline ids) = unitPathsMap (.outline ids) n.children := by
  have hdepth : (NodePath.outline ids).depth ≠ unitDepth := Nat.ne_of_lt h
  exact unitPaths_of_not_isUnit (beq_eq_false_iff_ne.mpr hdepth) n

/-- The units of a map are those of its nodes, one after the other. -/
theorem unitPathsEntries_eq {ids : List String} {levels : Nat} (hlength : ids.length < unitDepth)
    (hnodes : ∀ (id : String) (n : Node), n.unitPaths (.outline (ids ++ [id])) =
      .ok ((n.unitIds levels).map fun rest => .outline (ids ++ [id] ++ rest))) :
    ∀ m : ChildMap, unitPathsEntries (.outline ids) m =
      .ok ((m.flatMap fun e => (e.2.unitIds levels).map (e.1 :: ·)).map fun rest =>
        .outline (ids ++ rest))
  | [] => by rw [unitPathsEntries]; rfl
  | (id, n) :: m => by
    rw [unitPathsEntries, NodePath.child_above hlength, unitPathsEntries_eq hlength hnodes m]
    simp only [bind, Except.bind, pure, Except.pure, hnodes]
    simp [Function.comp_def]

/-- **The units at or below a node** are those that the ids lead to. -/
theorem unitPaths_eq : ∀ {levels : Nat} {ids : List String} (n : Node), ids.length + levels = unitDepth →
    n.unitPaths (.outline ids) = .ok ((n.unitIds levels).map fun rest => .outline (ids ++ rest)) := by
  intro levels
  induction levels with
  | zero =>
    intro ids n hlength
    rw [unitPaths_self hlength]
    simp [unitIds]
  | succ levels ih =>
    intro ids n hlength
    have hids : ∀ id : String, (ids ++ [id]).length + levels = unitDepth := by
      intro id
      rw [List.length_append, List.length_singleton]
      omega
    rw [unitPaths_above (by omega), unitIds]
    cases n.children with
    | none => rw [unitPathsMap]; rfl
    | some m => exact unitPathsEntries_eq (by omega) (fun id c => ih c (hids id)) m

/-- **The ids that lead to units** are those of that number that lead anywhere. -/
theorem mem_unitIds_iff : ∀ {levels depth : Nat} {n : Node} {rest : List String}, n.DistinctIds levels →
    depth + levels = unitDepth →
    (rest ∈ n.unitIds levels ↔ rest.length = levels ∧ ∃ x, NodePath.descend depth rest n = some x) := by
  intro levels
  induction levels with
  | zero =>
    intro depth n rest _ _
    rw [unitIds, List.mem_singleton]
    constructor
    · rintro rfl
      exact ⟨rfl, n, NodePath.descend_nil ..⟩
    · rintro ⟨hrest, -⟩
      exact List.eq_nil_of_length_eq_zero hrest
  | succ levels ih =>
    intro depth n rest hdistinct hlength
    have hbelowLength : depth + 1 + levels = unitDepth := by omega
    have hslot : (ChildSlot.atDepth depth).get n = n.children := by
      rw [ChildSlot.atDepth_of_lt (by omega)]
      rfl
    rw [unitIds, List.mem_flatMap]
    constructor
    · rintro ⟨⟨id, c⟩, he, hrest⟩
      obtain ⟨m, hm⟩ : ∃ m, n.children = some m := by
        cases hm : n.children with
        | none => rw [hm] at he; cases he
        | some m => exact ⟨m, rfl⟩
      rw [hm, Option.getD_some] at he
      obtain ⟨hkeys, hbelow⟩ := hdistinct m hm
      obtain ⟨rest, hmem, rfl⟩ := List.mem_map.mp hrest
      obtain ⟨hlevels, x, hx⟩ := (ih (hbelow _ he) hbelowLength).mp hmem
      exact ⟨congrArg (· + 1) hlevels, x, NodePath.descend_cons_eq_some.mpr
        ⟨m, c, hslot.trans hm, hkeys.get?_of_mem he, hx⟩⟩
    · rintro ⟨hlevels, x, hx⟩
      cases rest with
      | nil => cases hlevels
      | cons id rest =>
        obtain ⟨m, c, hm, hc, hx⟩ := NodePath.descend_cons_eq_some.mp hx
        have hm : n.children = some m := hslot.symm.trans hm
        have he := Keyed.mem_of_get? hc
        refine ⟨(id, c), by rwa [hm], List.mem_map.mpr ⟨rest, ?_, rfl⟩⟩
        exact (ih ((hdistinct m hm).2 _ he) hbelowLength).mpr ⟨Nat.succ.inj hlevels, x, hx⟩

end Node

/-! ## 4. Their order -/

/-- Under distinct keys, entries come in the order of the positions of their keys. -/
theorem Keyed.Distinct.pairwise_idxOf {α : Type} {m : Keyed α} (h : Distinct m) :
    m.Pairwise fun e e' => (keys m).idxOf e.1 < (keys m).idxOf e'.1 := by
  rw [List.pairwise_iff_getElem]
  intro i j hi hj hij
  have hposition : ∀ (k : Nat) (hk : k < m.length), (keys m).idxOf m[k].1 = k := by
    intro k hk
    have hlength : k < (keys m).length := by rwa [keys, List.length_map]
    have hkey : (keys m)[k] = m[k].1 := List.getElem_map ..
    rw [← hkey, List.Nodup.idxOf_getElem h]
  rw [hposition i hi, hposition j hj]
  exact hij

namespace NodePath

/-- The positions that ids followed downwards, from a node whose path has that length, have in the maps
on the way. -/
def positionsFrom : (depth : Nat) → List String → Node → List Nat
  | _, [], _ => []
  | depth, id :: rest, n =>
    ((ChildSlot.atDepth depth).get n).elim [] fun m =>
      (Keyed.keys m).idxOf id :: (Keyed.get? id m).elim [] (positionsFrom (depth + 1) rest)

theorem positionsFrom_cons {depth : Nat} {id : String} {m : ChildMap} {n c : Node}
    (hm : (ChildSlot.atDepth depth).get n = some m) (hc : Keyed.get? id m = some c)
    (rest : List String) :
    positionsFrom depth (id :: rest) n =
      (Keyed.keys m).idxOf id :: positionsFrom (depth + 1) rest c := by
  rw [positionsFrom, hm, Option.elim_some, hc, Option.elim_some]

/-- The positions along two stretches. -/
theorem positionsFrom_append {ids : List String} (rest : List String) :
    ∀ {depth : Nat} {n x : Node}, descend depth ids n = some x →
      positionsFrom depth (ids ++ rest) n =
        positionsFrom depth ids n ++ positionsFrom (depth + ids.length) rest x := by
  induction ids with
  | nil =>
    intro depth n x hx
    rw [descend_nil] at hx
    obtain rfl := Option.some.inj hx
    rfl
  | cons id ids ih =>
    intro depth n x hx
    obtain ⟨m, c, hm, hc, hx⟩ := descend_cons_eq_some.mp hx
    have hlength : depth + (id :: ids).length = depth + 1 + ids.length := by
      rw [List.length_cons]
      omega
    rw [List.cons_append, positionsFrom_cons hm hc, positionsFrom_cons hm hc, ih hx, hlength,
      List.cons_append]

end NodePath

/-- The positions of the ids of a path: that of the section among the sections, that of the subsection
in the section, and so on. -/
def Tree.positions (t : Tree) (p : NodePath) : List Nat :=
  NodePath.positionsFrom 0 p.ids t.root

/-- **The ids that lead to units come in order**: by the position of the first, then by that of the
second, and so on. -/
theorem Node.pairwise_unitIds : ∀ {levels depth : Nat} {n : Node}, n.DistinctIds levels →
    depth + levels = unitDepth →
    (n.unitIds levels).Pairwise fun ids ids' =>
      NodePath.positionsFrom depth ids n < NodePath.positionsFrom depth ids' n := by
  intro levels
  induction levels with
  | zero => intro depth n _ _; exact List.pairwise_singleton _ _
  | succ levels ih =>
    intro depth n hdistinct hlength
    rw [unitIds]
    cases hm : n.children with
    | none => exact .nil
    | some m =>
      obtain ⟨hkeys, hbelow⟩ := hdistinct m hm
      have hslot : (ChildSlot.atDepth depth).get n = some m := by
        rw [ChildSlot.atDepth_of_lt (by omega)]
        exact hm
      have hpositions : ∀ e ∈ m, ∀ rest : List String, NodePath.positionsFrom depth (e.1 :: rest) n =
          (Keyed.keys m).idxOf e.1 :: NodePath.positionsFrom (depth + 1) rest e.2 := fun e he =>
        NodePath.positionsFrom_cons hslot (hkeys.get?_of_mem he)
      rw [Option.getD_some, List.pairwise_flatMap]
      refine ⟨fun e he => ?_, hkeys.pairwise_idxOf.imp_of_mem fun he he' hlt ids hids ids' hids' => ?_⟩
      · rw [List.pairwise_map]
        have hbelowLength : depth + 1 + levels = unitDepth := by omega
        refine (ih (hbelow e he) hbelowLength).imp fun hlt => ?_
        rw [hpositions e he, hpositions e he]
        exact List.cons_lt_cons_iff.mpr (.inr ⟨rfl, hlt⟩)
      · obtain ⟨rest, -, rfl⟩ := List.mem_map.mp hids
        obtain ⟨rest', -, rfl⟩ := List.mem_map.mp hids'
        rw [hpositions _ he, hpositions _ he']
        exact List.cons_lt_cons_iff.mpr (.inl hlt)

/-! ## 5. The units at or below a path -/

/-- A path of a unit is at or below another path, where the course's own stands for the whole outline, if
it adds ids to it. -/
theorem NodePath.below_iff {p q : NodePath} (hunit : q.isUnit = true) :
    p = .courseInfo ∨ p.contains q = true ↔ ∃ rest, q = .outline (p.ids ++ rest) := by
  cases q with
  | courseInfo => cases hunit
  | outline ids =>
    cases p with
    | courseInfo => exact ⟨fun _ => ⟨ids, rfl⟩, fun _ => .inl rfl⟩
    | outline mine =>
      rw [contains_outline_iff]
      constructor
      · rintro (h | ⟨rest, rfl⟩)
        · cases h
        · exact ⟨rest, rfl⟩
      · rintro ⟨rest, h⟩
        cases h
        exact .inr (List.prefix_append ..)

namespace Tree

variable {t : Tree} {p : NodePath}

/-- The units of all sections are those of a map of nodes. -/
theorem unitPathsOf_eq : ∀ m : ChildMap, unitPathsOf m = Node.unitPathsEntries (.outline []) m
  | [] => by rw [unitPathsOf, Node.unitPathsEntries]
  | (id, n) :: m => by
    rw [unitPathsOf, Node.unitPathsEntries, unitPathsOf_eq]
    rfl

/-- Whether the path leads to a unit or to a node above the units, the course's own among them. -/
def LeadsToUnits (t : Tree) (p : NodePath) : Prop :=
  p.depth ≤ unitDepth ∧ ∃ n, p.resolve t = some n

/-- The course's own path stands for the outline as one node. -/
theorem unitPaths_courseInfo (t : Tree) :
    t.unitPaths .courseInfo = t.root.unitPaths (.outline []) := by
  rw [Node.unitPaths_above (by decide)]
  exact unitPathsOf_eq t.sections

/-- Any other stands for the node that it leads to. -/
theorem unitPaths_outline {ids : List String} {n : Node}
    (hn : (NodePath.outline ids).resolve t = some n) :
    t.unitPaths (.outline ids) = n.unitPaths (.outline ids) := by
  rw [unitPaths, NodePath.require, hn]
  rfl

/-- The units at or below a path that leads to them are those of one node. -/
theorem LeadsToUnits.unitPaths_eq (hp : t.LeadsToUnits p) :
    ∃ levels n, p.ids.length + levels = unitDepth ∧ NodePath.descend 0 p.ids t.root = some n ∧
      t.unitPaths p = n.unitPaths (.outline p.ids) := by
  obtain ⟨hdepth, n, hn⟩ := hp
  cases p with
  | courseInfo =>
    exact ⟨unitDepth, t.root, rfl, NodePath.descend_nil .., t.unitPaths_courseInfo⟩
  | outline ids =>
    obtain ⟨levels, hlevels⟩ := Nat.exists_eq_add_of_le hdepth
    have hids : ids ≠ [] := by rintro rfl; cases hn
    exact ⟨levels, n, hlevels.symm, (NodePath.resolve_eq_root hids t).symm.trans hn,
      unitPaths_outline hn⟩

/-- What ids added to those of such a path lead to. -/
theorem resolve_below {n : Node} (hn : NodePath.descend 0 p.ids t.root = some n) {rest : List String}
    (hrest : p.ids ++ rest ≠ []) :
    (NodePath.outline (p.ids ++ rest)).resolve t = NodePath.descend p.ids.length rest n := by
  rw [NodePath.resolve_eq_root hrest, NodePath.descend_append, hn, Option.bind_some, Nat.zero_add]

/-- **The units at or below a path** are listed in the order of the outline. -/
theorem unitPaths_in_order (ht : t.DistinctIds) (hp : t.LeadsToUnits p) :
    ∃ paths, t.unitPaths p = .ok paths ∧
      (∀ q, q ∈ paths ↔
        q.isUnit = true ∧ (p = .courseInfo ∨ p.contains q = true) ∧ ∃ n, q.resolve t = some n) ∧
      paths.Pairwise fun q q' => t.positions q < t.positions q' := by
  obtain ⟨levels, n, hlength, hn, hpaths⟩ := hp.unitPaths_eq
  have hdistinct : n.DistinctIds levels :=
    Node.DistinctIds.descend (hlength ▸ ht.root) (by omega) hn
  have hbelow : ∀ rest : List String, rest.length = levels → p.ids ++ rest ≠ [] := by
    intro rest hrest hnil
    have hzero := congrArg List.length hnil
    rw [List.length_append, hrest, hlength] at hzero
    cases hzero
  refine ⟨_, hpaths.trans (Node.unitPaths_eq n hlength), fun q => ?_, ?_⟩
  · rw [List.mem_map]
    constructor
    · rintro ⟨rest, hmem, rfl⟩
      obtain ⟨hrest, x, hx⟩ := (Node.mem_unitIds_iff hdistinct hlength).mp hmem
      have hunit : (NodePath.outline (p.ids ++ rest)).isUnit = true := by
        rw [NodePath.isUnit, beq_iff_eq, NodePath.depth, List.length_append, hrest, hlength]
      exact ⟨hunit, (NodePath.below_iff hunit).mpr ⟨rest, rfl⟩, x,
        (resolve_below hn (hbelow rest hrest)).trans hx⟩
    · rintro ⟨hunit, hcontains, x, hx⟩
      obtain ⟨rest, rfl⟩ := (NodePath.below_iff hunit).mp hcontains
      rw [NodePath.isUnit, beq_iff_eq, NodePath.depth, List.length_append] at hunit
      have hrest : rest.length = levels := by omega
      rw [resolve_below hn (hbelow rest hrest)] at hx
      exact ⟨rest, (Node.mem_unitIds_iff hdistinct hlength).mpr ⟨hrest, x, hx⟩, rfl⟩
  · rw [List.pairwise_map]
    refine (Node.pairwise_unitIds hdistinct hlength).imp fun hlt => ?_
    -- the paths have their first ids in common, so that the others decide
    rw [positions, positions, NodePath.ids, NodePath.ids, NodePath.positionsFrom_append _ hn,
      NodePath.positionsFrom_append _ hn, Nat.zero_add]
    exact List.append_left_lt hlt

/-- What comes in order comes once. -/
theorem nodup_of_in_order {paths : List NodePath}
    (h : paths.Pairwise fun q q' => t.positions q < t.positions q') : paths.Nodup := by
  refine h.imp fun hlt => ?_
  rintro rfl
  exact List.lt_irrefl _ hlt

/-- They are listed once each. -/
theorem unitPaths_ok (ht : t.DistinctIds) (hp : t.LeadsToUnits p) :
    ∃ paths, t.unitPaths p = .ok paths ∧ paths.Nodup ∧ ∀ q, q ∈ paths ↔
      q.isUnit = true ∧ (p = .courseInfo ∨ p.contains q = true) ∧ ∃ n, q.resolve t = some n := by
  obtain ⟨paths, hpaths, hmem, horder⟩ := unitPaths_in_order ht hp
  exact ⟨paths, hpaths, nodup_of_in_order horder, hmem⟩

/-- A path that leads nowhere has no units listed. -/
theorem unitPaths_of_not_found (h : p.resolve t = none) :
    t.unitPaths p = .error (.nodeNotFound p.text) := by
  cases p with
  | courseInfo => cases h
  | outline ids =>
    rw [unitPaths, NodePath.require, h]
    rfl

/-- **Listing units is complete, without repetition and in order.**  From the course's own path, and from
a path of one to three ids that leads somewhere, the paths of three ids that lead somewhere at or below it
are listed, each of them once, and by the positions of the section, the subsection and the unit in the
maps.  From a path that leads nowhere the listing fails. -/
theorem lists_each_unit_once (t : Tree) (p : NodePath) :
    (t.DistinctIds → t.LeadsToUnits p → ∃ paths, t.unitPaths p = .ok paths ∧ paths.Nodup ∧
      (∀ q, q ∈ paths ↔
        q.isUnit = true ∧ (p = .courseInfo ∨ p.contains q = true) ∧ ∃ n, q.resolve t = some n) ∧
      paths.Pairwise fun q q' => t.positions q < t.positions q') ∧
    (p.resolve t = none → t.unitPaths p = .error (.nodeNotFound p.text)) := by
  refine ⟨fun ht hp => ?_, unitPaths_of_not_found⟩
  obtain ⟨paths, hpaths, hmem, horder⟩ := unitPaths_in_order ht hp
  exact ⟨paths, hpaths, nodup_of_in_order horder, hmem, horder⟩

end Tree

namespace Sample

/-- An outline whose maps are not in the order of the ids.  One subsection has blocks in its other map,
one chapter has no map for its children, and one has an empty one. -/
def unsortedTree : Tree :=
  let block (usageKey : String) (children units : Option ChildMap) : Node := { usageKey, children, units }
  let inUnit := block "vertical" none (some [("C1", block "html" none none)])
  let inBoth := block "sequential" (some [("U2", inUnit), ("U1", inUnit)]) (some [("U3", inUnit)])
  { courseInfo := .ofBlock "course" "course"
    sections :=
      [("S3", block "chapter" (some [("Q2", block "sequential" (some [("U1", inUnit)]) none),
          ("Q1", inBoth)]) none),
        ("S2", block "chapter" none (some [("Q1", inBoth)])), ("S1", block "chapter" (some []) none)] }

end Sample

open Sample in
/-- The units of that outline come as the maps have them, and not by their ids; what is in the other map
of a subsection is no unit. -/
theorem Tree.lists_units_of_unsorted :
    unsortedTree.DistinctIds ∧
    (unsortedTree.unitPaths .courseInfo =
        .ok [.outline ["S3", "Q2", "U1"], .outline ["S3", "Q1", "U2"], .outline ["S3", "Q1", "U1"]] ∧
      ∀ (q : NodePath) (n : Node), q.isUnit = true → q.resolve unsortedTree = some n →
        q ∈ [.outline ["S3", "Q2", "U1"], .outline ["S3", "Q1", "U2"], .outline ["S3", "Q1", "U1"]]) ∧
    unsortedTree.unitPaths (.outline ["S2", "Q1"]) = .error (.nodeNotFound "S2/Q1") := by
  have hdistinct : unsortedTree.DistinctIds := by decide
  have hunits : unsortedTree.unitPaths .courseInfo =
      .ok [.outline ["S3", "Q2", "U1"], .outline ["S3", "Q1", "U2"], .outline ["S3", "Q1", "U1"]] := rfl
  obtain ⟨paths, hpaths, -, hmem, -⟩ :=
    (lists_each_unit_once unsortedTree .courseInfo).1 hdistinct ⟨by decide, _, rfl⟩
  rw [hunits] at hpaths
  obtain rfl := Except.ok.inj hpaths
  exact ⟨hdistinct, ⟨hunits, fun q n hunit hn => (hmem q).mpr ⟨hunit, .inl rfl, n, hn⟩⟩,
    (lists_each_unit_once unsortedTree (.outline ["S2", "Q1"])).2 rfl⟩

/-! ## 6. Units without content -/

namespace Tree

variable {t : Tree} {p : NodePath}

/-- The units at or below a path whose content is missing, in the order of the outline. -/
def missingUnits (t : Tree) (p : NodePath) : List NodePath :=
  match t.unitPaths p with
  | .error _ => []
  | .ok paths => paths.filter fun q => (q.resolve t).any (·.units.isNone)

/-- **The units whose content is missing.** -/
theorem missingUnits_spec (ht : t.DistinctIds) (hp : t.LeadsToUnits p) :
    (t.missingUnits p).Nodup ∧ ∀ q, q ∈ t.missingUnits p ↔
      q.isUnit = true ∧ (p = .courseInfo ∨ p.contains q = true) ∧
        ∃ n, q.resolve t = some n ∧ n.units = none := by
  obtain ⟨paths, hpaths, hnodup, hmem⟩ := unitPaths_ok ht hp
  rw [missingUnits, hpaths]
  refine ⟨hnodup.filter _, fun q => ?_⟩
  rw [List.mem_filter, hmem]
  constructor
  · rintro ⟨⟨hunit, hbelow, n, hn⟩, hmissing⟩
    rw [hn, Option.any_some, Option.isNone_iff_eq_none] at hmissing
    exact ⟨hunit, hbelow, n, hn, hmissing⟩
  · rintro ⟨hunit, hbelow, n, hn, hmissing⟩
    refine ⟨⟨hunit, hbelow, n, hn⟩, ?_⟩
    rw [hn, Option.any_some, hmissing]
    rfl

end Tree

end CourseReview
