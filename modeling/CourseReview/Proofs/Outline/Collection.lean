import CourseReview.Outline.Units
import CourseReview.Proofs.Outline.Lookup

/-!
# What a bulk approval collects

Two descents meet in a bulk approval.  A path goes through `children` down to a unit and through
`units` from there (`NodePath.resolve`); the collection of what is eligible goes through whichever
of the two maps a node has, `children` first (`Node.collectEligible`).  This file settles where
they part: at a unit that has `children` of its own, even empty ones, its content can be reached by
path and is not collected.

`NodePath.Hidden` says that this happens on the way from one path to another.  It is the exact
condition (`Tree.planApproval_collects_unless_hidden`): what is not hidden is collected, and what
is hidden is not, unless its usage key is that of a block elsewhere.  Content does get hidden
(`Tree.planApproval_misses_content`).
-/

namespace CourseReview

/-! ## 1. The usage keys below a node -/

namespace Node

mutual

/-- The usage keys of a node and of all nodes below it, through both maps. -/
def usageKeys : Node → List String
  | ⟨key, _, _, _, _, _, _, children, units⟩ =>
    key :: (usageKeysMap children ++ usageKeysMap units)

/-- The usage keys of an optional child map. -/
def usageKeysMap : Option (List (String × Node)) → List String
  | none => []
  | some entries => usageKeysEntries entries

/-- The usage keys of the entries of a child map. -/
def usageKeysEntries : List (String × Node) → List String
  | [] => []
  | (_, n) :: rest => usageKeys n ++ usageKeysEntries rest

end

theorem usageKeys_eq (n : Node) :
    n.usageKeys = n.usageKey :: (usageKeysMap n.children ++ usageKeysMap n.units) := by
  cases n with
  | mk key category data previous status versions links children units => rw [usageKeys]

theorem collectEligible_eq (n : Node) :
    n.collectEligible = (if n.isEligible then [n.usageKey] else []) ++
      if n.children.isSome then collectEligibleMap n.children
      else collectEligibleMap n.units := by
  cases n with
  | mk key category data previous status versions links children units => rw [collectEligible]

mutual

/-- **What is collected are the eligible nodes in the order of the walk**, each node before what is below
it. -/
theorem collectEligible_eq_walk :
    ∀ n : Node, n.collectEligible = (n.walk.filter isEligible).map usageKey
  | ⟨key, category, data, previous, status, versions, links, children, units⟩ => by
    have hbelow : (if children.isSome then collectEligibleMap children else collectEligibleMap units) =
        ((if children.isSome then walkMap children else walkMap units).filter isEligible).map
          usageKey := by
      split
      · exact collectEligibleMap_eq_walk children
      · exact collectEligibleMap_eq_walk units
    rw [collectEligible, walk, List.filter_cons, hbelow]
    split <;> rfl

theorem collectEligibleMap_eq_walk : ∀ o : Option (List (String × Node)),
    collectEligibleMap o = ((walkMap o).filter isEligible).map usageKey
  | none => by rw [collectEligibleMap, walkMap]; rfl
  | some entries => by rw [collectEligibleMap, walkMap, collectEligibleEntries_eq_walk entries]

theorem collectEligibleEntries_eq_walk : ∀ m : List (String × Node),
    collectEligibleEntries m = ((walkEntries m).filter isEligible).map usageKey
  | [] => by rw [collectEligibleEntries, walkEntries]; rfl
  | (_, n) :: rest => by
    rw [collectEligibleEntries, walkEntries, List.filter_append, List.map_append,
      collectEligible_eq_walk n, collectEligibleEntries_eq_walk rest]

end

/-- An eligible node is collected itself. -/
theorem usageKey_mem_collectEligible {n : Node} (h : n.isEligible = true) :
    n.usageKey ∈ n.collectEligible := by
  rw [collectEligible_eq, if_pos h]
  exact List.mem_append_left _ (List.mem_singleton.mpr rfl)

mutual

/-- Nothing else is collected than what is there. -/
theorem mem_usageKeys_of_mem_collectEligible {k : String} :
    ∀ {n : Node}, k ∈ n.collectEligible → k ∈ n.usageKeys
  | ⟨key, category, data, previous, status, versions, links, children, units⟩, h => by
    rw [collectEligible] at h
    rw [usageKeys]
    rcases List.mem_append.mp h with h | h
    · split at h
      · rw [List.mem_singleton.mp h]; exact List.mem_cons_self ..
      · cases h
    · refine List.mem_cons_of_mem _ (List.mem_append.mpr ?_)
      split at h
      · exact .inl (mem_usageKeysMap_of_mem_collectEligibleMap h)
      · exact .inr (mem_usageKeysMap_of_mem_collectEligibleMap h)

theorem mem_usageKeysMap_of_mem_collectEligibleMap {k : String} :
    ∀ {m : Option (List (String × Node))}, k ∈ collectEligibleMap m → k ∈ usageKeysMap m
  | none, h => by rw [collectEligibleMap] at h; cases h
  | some entries, h => by
    rw [collectEligibleMap] at h
    rw [usageKeysMap]
    exact mem_usageKeysEntries_of_mem_collectEligibleEntries h

theorem mem_usageKeysEntries_of_mem_collectEligibleEntries {k : String} :
    ∀ {es : List (String × Node)}, k ∈ collectEligibleEntries es → k ∈ usageKeysEntries es
  | [], h => by rw [collectEligibleEntries] at h; cases h
  | (_, n) :: rest, h => by
    rw [collectEligibleEntries] at h
    rw [usageKeysEntries]
    rcases List.mem_append.mp h with h | h
    · exact List.mem_append_left _ (mem_usageKeys_of_mem_collectEligible h)
    · exact List.mem_append_right _ (mem_usageKeysEntries_of_mem_collectEligibleEntries h)

end

/-- What is there below an entry is there below the map. -/
theorem mem_usageKeysEntries_of_get? {k id : String} {c : Node} :
    ∀ {m : ChildMap}, Keyed.get? id m = some c → k ∈ c.usageKeys → k ∈ usageKeysEntries m
  | [], hc, _ => by cases hc
  | (id', n) :: rest, hc, hk => by
    rw [Keyed.get?] at hc
    rw [usageKeysEntries, List.mem_append]
    split at hc
    · obtain rfl := Option.some.inj hc
      exact .inl hk
    · exact .inr (mem_usageKeysEntries_of_get? hc hk)

/-- What is collected below an entry is collected below the map. -/
theorem mem_collectEligibleEntries_of_get? {k id : String} {c : Node} :
    ∀ {m : ChildMap}, Keyed.get? id m = some c → k ∈ c.collectEligible →
      k ∈ collectEligibleEntries m
  | [], hc, _ => by cases hc
  | (id', n) :: rest, hc, hk => by
    rw [Keyed.get?] at hc
    rw [collectEligibleEntries, List.mem_append]
    split at hc
    · obtain rfl := Option.some.inj hc
      exact .inl hk
    · exact .inr (mem_collectEligibleEntries_of_get? hc hk)

/-- Among distinct usage keys, one that is below an entry is collected there or nowhere in the
map. -/
theorem mem_collectEligible_of_get? {k id : String} {c : Node} :
    ∀ {m : ChildMap}, (usageKeysEntries m).Nodup → Keyed.get? id m = some c → k ∈ c.usageKeys →
      k ∈ collectEligibleEntries m → k ∈ c.collectEligible
  | [], _, hc, _, _ => by cases hc
  | (id', n) :: rest, hm, hc, hk, h => by
    rw [usageKeysEntries, List.nodup_append] at hm
    obtain ⟨-, hrest, hdisjoint⟩ := hm
    rw [Keyed.get?] at hc
    rw [collectEligibleEntries, List.mem_append] at h
    split at hc
    · obtain rfl := Option.some.inj hc
      refine h.resolve_right fun h => ?_
      exact hdisjoint k hk k (mem_usageKeysEntries_of_mem_collectEligibleEntries h) rfl
    · refine mem_collectEligible_of_get? hrest hc hk (h.resolve_left fun h => ?_)
      exact hdisjoint k (mem_usageKeys_of_mem_collectEligible h) k
        (mem_usageKeysEntries_of_get? hc hk) rfl

/-- Distinct usage keys below a map are distinct below each of its entries. -/
theorem nodup_usageKeys_of_get? {id : String} {c : Node} :
    ∀ {m : ChildMap}, (usageKeysEntries m).Nodup → Keyed.get? id m = some c → c.usageKeys.Nodup
  | [], _, hc => by cases hc
  | (id', n) :: rest, hm, hc => by
    rw [usageKeysEntries, List.nodup_append] at hm
    rw [Keyed.get?] at hc
    split at hc
    · rw [← Option.some.inj hc]; exact hm.1
    · exact nodup_usageKeys_of_get? hm.2.1 hc

end Node

/-- What is there in one of the two maps is there below the node. -/
theorem ChildSlot.mem_usageKeys {slot : ChildSlot} {n : Node} {m : ChildMap} {k : String}
    (hm : slot.get n = some m) (hk : k ∈ Node.usageKeysEntries m) : k ∈ n.usageKeys := by
  rw [Node.usageKeys_eq]
  refine List.mem_cons_of_mem _ (List.mem_append.mpr ?_)
  cases slot with
  | children =>
    have hm : n.children = some m := hm
    rw [hm, Node.usageKeysMap]; exact .inl hk
  | units =>
    have hm : n.units = some m := hm
    rw [hm, Node.usageKeysMap]; exact .inr hk

/-- What ids lead to is there below the node. -/
theorem NodePath.mem_usageKeys_of_descend {ids : List String} :
    ∀ {depth : Nat} {n m : Node}, descend depth ids n = some m → m.usageKey ∈ n.usageKeys := by
  induction ids with
  | nil =>
    intro depth n m h
    rw [descend_nil] at h
    obtain rfl := Option.some.inj h
    rw [Node.usageKeys_eq]; exact List.mem_cons_self ..
  | cons id rest ih =>
    intro depth n m h
    obtain ⟨cs, c, hcs, hc, hm⟩ := descend_cons_eq_some.mp h
    exact ChildSlot.mem_usageKeys hcs (Node.mem_usageKeysEntries_of_get? hc (ih hm))

/-! ## 2. Hidden nodes -/

/-- Following ids from a node whose path has the given length, one comes, before the end, to a node
that is no longer above the units and has `children`. -/
def Node.HidesBelow (depth : Nat) (ids : List String) (n : Node) : Prop :=
  ∃ above below x, ids = above ++ below ∧ below ≠ [] ∧ unitDepth ≤ depth + above.length ∧
    NodePath.descend depth above n = some x ∧ x.children.isSome = true

/-- Between two paths, one above the other, there is a unit with `children`. -/
def NodePath.Hidden (t : Tree) (p q : NodePath) : Prop :=
  ∃ u x, p.contains u = true ∧ u.contains q = true ∧ u ≠ q ∧ unitDepth ≤ u.depth ∧
    u.resolve t = some x ∧ x.children.isSome = true

/-- The two say the same of a path and the ids that lead on from it. -/
theorem NodePath.hidden_iff {t : Tree} {ids rest : List String} {n : Node} (hids : ids ≠ [])
    (hn : (outline ids).resolve t = some n) :
    Hidden t (outline ids) (outline (ids ++ rest)) ↔ n.HidesBelow ids.length rest := by
  constructor
  · rintro ⟨u, x, hpu, huq, hne, hdepth, hx, hchildren⟩
    obtain ⟨hp, -⟩ | ⟨mine, above, hp, rfl⟩ := contains_cases hpu
    · cases hp
    obtain rfl := (NodePath.outline.inj hp)
    obtain ⟨hu, -⟩ | ⟨theirs, below, hu, hq⟩ := contains_cases huq
    · cases hu
    obtain rfl := (NodePath.outline.inj hu)
    have hq := NodePath.outline.inj hq
    rw [List.append_assoc] at hq
    obtain rfl := List.append_cancel_left hq
    rw [resolve_append hids, hn, Option.bind_some] at hx
    refine ⟨above, below, x, rfl, ?_, ?_, hx, hchildren⟩
    · rintro rfl
      exact hne (by rw [List.append_nil])
    · rw [depth, List.length_append] at hdepth; exact hdepth
  · rintro ⟨above, below, x, rfl, hbelow, hdepth, hx, hchildren⟩
    refine ⟨outline (ids ++ above), x, contains_outline_iff.mpr ⟨above, rfl⟩,
      contains_outline_iff.mpr ⟨below, List.append_assoc ..⟩, ?_, ?_, ?_, hchildren⟩
    · intro h
      have h := List.append_cancel_left (NodePath.outline.inj h)
      exact hbelow (List.append_cancel_left (by rw [List.append_nil]; exact h.symm))
    · rw [depth, List.length_append]; exact hdepth
    · rw [resolve_append hids, hn, Option.bind_some, hx]

namespace Node

/-- A node hides nothing that its child does not hide, unless it is a unit with `children`. -/
theorem HidesBelow.of_child {depth : Nat} {id : String} {rest : List String} {n c : Node}
    {m : ChildMap} (hm : (ChildSlot.atDepth depth).get n = some m) (hc : Keyed.get? id m = some c)
    (h : c.HidesBelow (depth + 1) rest) : n.HidesBelow depth (id :: rest) := by
  obtain ⟨above, below, x, rfl, hbelow, hdepth, hx, hchildren⟩ := h
  refine ⟨id :: above, below, x, rfl, hbelow, ?_,
    NodePath.descend_cons_eq_some.mpr ⟨m, c, hm, hc, hx⟩, hchildren⟩
  rw [List.length_cons]; omega

/-- A node that hides what ids lead to is a unit with `children`, or its child hides it. -/
theorem HidesBelow.cases {depth : Nat} {id : String} {rest : List String} {n : Node}
    (h : n.HidesBelow depth (id :: rest)) :
    (unitDepth ≤ depth ∧ n.children.isSome = true) ∨
      ∃ m c, (ChildSlot.atDepth depth).get n = some m ∧ Keyed.get? id m = some c ∧
        c.HidesBelow (depth + 1) rest := by
  obtain ⟨above, below, x, hids, hbelow, hdepth, hx, hchildren⟩ := h
  cases above with
  | nil =>
    rw [NodePath.descend_nil] at hx
    obtain rfl := Option.some.inj hx
    exact .inl ⟨hdepth, hchildren⟩
  | cons id' above =>
    obtain ⟨rfl, rfl⟩ := List.cons.inj hids
    obtain ⟨m, c, hm, hc, hx⟩ := NodePath.descend_cons_eq_some.mp hx
    refine .inr ⟨m, c, hm, hc, above, below, x, rfl, hbelow, ?_, hx, hchildren⟩
    rw [List.length_cons] at hdepth; omega

/-- **What is not hidden is collected.** -/
theorem mem_collectEligible_of_descend {ids : List String} :
    ∀ {depth : Nat} {n m : Node}, NodePath.descend depth ids n = some m → m.isEligible = true →
      ¬ n.HidesBelow depth ids → m.usageKey ∈ n.collectEligible := by
  induction ids with
  | nil =>
    intro depth n m h he _
    rw [NodePath.descend_nil] at h
    obtain rfl := Option.some.inj h
    exact usageKey_mem_collectEligible he
  | cons id rest ih =>
    intro depth n m h he hseen
    obtain ⟨cs, c, hcs, hc, hm⟩ := NodePath.descend_cons_eq_some.mp h
    have hbelow : m.usageKey ∈ collectEligibleEntries cs :=
      mem_collectEligibleEntries_of_get? hc (ih hm he fun hc' => hseen (.of_child hcs hc hc'))
    rw [collectEligible_eq]
    refine List.mem_append_right _ ?_
    by_cases hdepth : unitDepth ≤ depth
    · rw [ChildSlot.atDepth, if_pos hdepth] at hcs
      have hcs : n.units = some cs := hcs
      have hnone : ¬ n.children.isSome = true := fun hchildren =>
        hseen ⟨[], id :: rest, n, rfl, List.cons_ne_nil _ _, hdepth, NodePath.descend_nil _ _,
          hchildren⟩
      rw [if_neg hnone, hcs, collectEligibleMap]
      exact hbelow
    · rw [ChildSlot.atDepth, if_neg hdepth] at hcs
      have hcs : n.children = some cs := hcs
      rw [hcs, if_pos Option.isSome_some, collectEligibleMap]
      exact hbelow

/-- **What is hidden is not**, unless its usage key turns up elsewhere. -/
theorem not_mem_collectEligible_of_hidesBelow {ids : List String} :
    ∀ {depth : Nat} {n m : Node}, NodePath.descend depth ids n = some m → n.usageKeys.Nodup →
      n.HidesBelow depth ids → m.usageKey ∉ n.collectEligible := by
  induction ids with
  | nil =>
    rintro depth n m - - ⟨above, below, -, hids, hbelow, -⟩
    exact absurd (List.append_eq_nil_iff.mp hids.symm).2 hbelow
  | cons id rest ih =>
    intro depth n m h hnodup hhidden hcollected
    obtain ⟨cs, c, hcs, hc, hm⟩ := NodePath.descend_cons_eq_some.mp h
    have hbelow : m.usageKey ∈ usageKeysEntries cs :=
      mem_usageKeysEntries_of_get? hc (NodePath.mem_usageKeys_of_descend hm)
    rw [usageKeys_eq, List.nodup_cons, List.nodup_append] at hnodup
    obtain ⟨hown, hchildren, hunits, hdisjoint⟩ := hnodup
    -- the child that hides it has not collected it, so the map of the child has not either
    have hmap : (usageKeysEntries cs).Nodup → c.HidesBelow (depth + 1) rest →
        m.usageKey ∉ collectEligibleEntries cs := fun hcs hhides hmem =>
      ih hm (nodup_usageKeys_of_get? hcs hc) hhides
        (mem_collectEligible_of_get? hcs hc (NodePath.mem_usageKeys_of_descend hm) hmem)
    have hchild : (unitDepth ≤ depth ∧ n.children.isSome = true) ∨
        c.HidesBelow (depth + 1) rest := by
      refine hhidden.cases.imp_right ?_
      rintro ⟨cs', c', hcs', hc', hhides⟩
      obtain rfl := Option.some.inj (hcs.symm.trans hcs')
      obtain rfl := Option.some.inj (hc.symm.trans hc')
      exact hhides
    rw [collectEligible_eq, List.mem_append] at hcollected
    by_cases hdepth : unitDepth ≤ depth
    · rw [ChildSlot.atDepth, if_pos hdepth] at hcs
      have hcs : n.units = some cs := hcs
      rw [hcs, usageKeysMap] at hown hunits hdisjoint
      rcases hcollected with hmem | hmem
      · split at hmem
        · rw [← List.mem_singleton.mp hmem] at hown
          exact hown (List.mem_append_right _ hbelow)
        · cases hmem
      · split at hmem
        · exact hdisjoint _ (mem_usageKeysMap_of_mem_collectEligibleMap hmem) _ hbelow rfl
        · rename_i hnone
          rw [hcs, collectEligibleMap] at hmem
          exact hmap hunits (hchild.resolve_left fun h => hnone h.2) hmem
    · rw [ChildSlot.atDepth, if_neg hdepth] at hcs
      have hcs : n.children = some cs := hcs
      rw [hcs, usageKeysMap] at hown hchildren
      rcases hcollected with hmem | hmem
      · split at hmem
        · rw [← List.mem_singleton.mp hmem] at hown
          exact hown (List.mem_append_left _ hbelow)
        · cases hmem
      · rw [hcs, if_pos Option.isSome_some, collectEligibleMap] at hmem
        exact hmap hchildren (hchild.resolve_left fun h => hdepth h.1) hmem

end Node

/-! ## 3. Planning an approval -/

theorem Tree.planApproval_eq {t : Tree} {p : NodePath} {n : Node} (hn : p.resolve t = some n) :
    t.planApproval p = if n.collectEligible.isEmpty then .error (.nothingToApprove p.text)
      else .ok n.collectEligible := by
  rw [planApproval, NodePath.require, hn]

/-- The keys planned for a path are those collected there. -/
theorem Tree.mem_planApproval_iff {t : Tree} {p : NodePath} {n : Node} {k : String}
    (hn : p.resolve t = some n) :
    (∃ keys, t.planApproval p = .ok keys ∧ k ∈ keys) ↔ k ∈ n.collectEligible := by
  rw [planApproval_eq hn]
  constructor
  · rintro ⟨keys, hkeys, hk⟩
    split at hkeys
    · cases hkeys
    · rw [Except.ok.inj hkeys]; exact hk
  · intro hk
    have hne : ¬ n.collectEligible.isEmpty = true := by
      rw [List.isEmpty_iff]
      exact List.ne_nil_of_mem hk
    exact ⟨n.collectEligible, if_neg hne, hk⟩

/-- **Bulk approval misses nothing but what is hidden.**  Let `q` be a path at or below `p` that
leads to an eligible node.  If no unit between the two has `children`, the plan for `p` is made and
the node's usage key is in it.  If one has, then whatever is planned for `p` is planned without the
node, as long as the usage keys below `p` are distinct. -/
theorem Tree.planApproval_collects_unless_hidden {t : Tree} {p q : NodePath} {n m : Node}
    (hn : p.resolve t = some n) (hpq : p.contains q = true) (hm : q.resolve t = some m)
    (he : m.isEligible = true) :
    (¬ NodePath.Hidden t p q → ∃ keys, t.planApproval p = .ok keys ∧ m.usageKey ∈ keys) ∧
    (NodePath.Hidden t p q → n.usageKeys.Nodup →
      ¬ ∃ keys, t.planApproval p = .ok keys ∧ m.usageKey ∈ keys) := by
  rw [mem_planApproval_iff hn]
  obtain ⟨rfl, rfl⟩ | ⟨ids, rest, rfl, rfl⟩ := NodePath.contains_cases hpq
  · -- the course's own node is above nothing but itself
    rw [hn] at hm
    obtain rfl := Option.some.inj hm
    refine ⟨fun _ => Node.usageKey_mem_collectEligible he, ?_⟩
    rintro ⟨u, -, hu, -, hne, -⟩
    obtain ⟨-, rfl⟩ | ⟨_, _, h, -⟩ := NodePath.contains_cases hu
    · exact absurd rfl hne
    · cases h
  · have hids : ids ≠ [] := by
      rintro rfl
      cases hn
    rw [NodePath.resolve_append hids, hn, Option.bind_some] at hm
    rw [NodePath.hidden_iff hids hn]
    exact ⟨Node.mem_collectEligible_of_descend hm he,
      fun hhidden hnodup => Node.not_mem_collectEligible_of_hidesBelow hm hnodup hhidden⟩

namespace Sample

/-- A block of content that can be approved. -/
def content : Node :=
  { usageKey := "html", category := "html",
    status := some { destinationFlag := true, isFullyTranslated := true } }

/-- A unit with these maps below it. -/
def unit (children units : Option ChildMap) : Node :=
  { usageKey := "vertical", category := "vertical", children, units }

/-- An outline with that unit in it. -/
def unitTree (children units : Option ChildMap) : Tree :=
  let subsection : Node := { usageKey := "sequential", children := some [("U1", unit children units)] }
  let chapter : Node := { usageKey := "chapter", children := some [("Q1", subsection)] }
  { courseInfo := .ofBlock "course" "course", sections := [("S1", chapter)] }

/-- The path of the unit. -/
def unitPath : NodePath := .outline ["S1", "Q1", "U1"]

/-- The path of the content. -/
def contentPath : NodePath := .outline ["S1", "Q1", "U1", "C1"]

end Sample

open Sample in
/-- Plain content is planned for its unit, and content hidden by empty `children` is not. -/
theorem Tree.planApproval_collects_plain_content :
    (∃ keys, (unitTree none (some [("C1", content)])).planApproval unitPath = .ok keys ∧
      "html" ∈ keys) ∧
    ¬ ∃ keys, (unitTree (some []) (some [("C1", content)])).planApproval unitPath = .ok keys ∧
      "html" ∈ keys := by
  have hplain : ¬ NodePath.Hidden (unitTree none (some [("C1", content)])) unitPath contentPath := by
    intro h
    have hunit : unitPath.resolve (unitTree none (some [("C1", content)])) =
        some (unit none (some [("C1", content)])) := rfl
    obtain ⟨above, below, x, hids, hbelow, -, hx, hchildren⟩ :
        (unit none (some [("C1", content)])).HidesBelow 3 ["C1"] :=
      (NodePath.hidden_iff (List.cons_ne_nil _ _) hunit).mp h
    cases above with
    | nil => rw [← Option.some.inj hx] at hchildren; cases hchildren
    | cons id above => exact hbelow (List.append_eq_nil_iff.mp (List.cons.inj hids).2.symm).2
  have hhidden : NodePath.Hidden (unitTree (some []) (some [("C1", content)])) unitPath
      contentPath := ⟨unitPath, _, rfl, rfl, by decide, by decide, rfl, rfl⟩
  have hnodup : (unit (some []) (some [("C1", content)])).usageKeys.Nodup := by decide
  exact ⟨(planApproval_collects_unless_hidden (m := content) rfl rfl rfl rfl).1 hplain,
    (planApproval_collects_unless_hidden (m := content) rfl rfl rfl rfl).2 hhidden hnodup⟩

open Sample in
/-- **Content can be missed.**  The unit came with empty `children`, and its content was put in
place afterwards.  The path of the content leads to an eligible node below the unit, and for the
unit there is nothing to approve. -/
theorem Tree.planApproval_misses_content :
    ∃ m, Outline.mergeUnit ⟨unitTree (some []) none, unitTree (some []) none⟩ unitPath
        { rerun := some [("C1", content)] } = .ok m ∧
      contentPath.resolve m.outline.rerun = some content ∧ content.isEligible = true ∧
      unitPath.contains contentPath = true ∧
      m.outline.rerun.planApproval unitPath = .error (.nothingToApprove unitPath.text) :=
  ⟨_, rfl, rfl, rfl, rfl, by rfl⟩

end CourseReview
