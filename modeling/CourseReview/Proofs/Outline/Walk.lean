import CourseReview.Proofs.Outline.UniqueIds

/-!
# The walk, place by place

A walk visits every node once, but goes through one map of each node only, its children where there are
any.  This file says at which places it comes by (`Tree.walkPlaces`), and what it sees after every node at
or below a path was rewritten: the same places in the same order, with the nodes at those that the path
covers rewritten and all others what they were, but for their maps (`Tree.map_walkPlaces_update`).

Counts over an outline are counts of the nodes walked (`Tree.stats_eq`), and so counts of places.
-/

namespace CourseReview

namespace Node

/-! ## 1. Below one node -/

/-- The map through which the walk goes on: the children where there are any, else the content. -/
def walkSlot (n : Node) : ChildSlot :=
  if n.children.isSome then .children else .units

mutual

/-- The nodes of the walk, each with the steps that lead to it. -/
def walkSteps : Node → List (List (ChildSlot × String) × Node)
  | ⟨key, category, data, previous, status, versions, links, children, units⟩ =>
    ([], ⟨key, category, data, previous, status, versions, links, children, units⟩) ::
      if children.isSome then walkStepsMap .children children else walkStepsMap .units units

/-- The same for an optional child map. -/
def walkStepsMap (slot : ChildSlot) :
    Option (List (String × Node)) → List (List (ChildSlot × String) × Node)
  | none => []
  | some entries => walkStepsEntries slot entries

/-- The same for the entries of a child map. -/
def walkStepsEntries (slot : ChildSlot) :
    List (String × Node) → List (List (ChildSlot × String) × Node)
  | [] => []
  | (id, n) :: rest =>
    (walkSteps n).map (fun s => ((slot, id) :: s.1, s.2)) ++ walkStepsEntries slot rest

end

/-- The nodes walked below the entries of a map, each at what is made of the entry's id and the steps
from there. -/
def walkEntriesAt {α : Type} (at_ : String → List (ChildSlot × String) → α) (m : ChildMap) :
    List (α × Node) :=
  m.flatMap fun e => e.2.walkSteps.map fun s => (at_ e.1 s.1, s.2)

theorem walkStepsEntries_eq (slot : ChildSlot) :
    ∀ m : ChildMap, walkStepsEntries slot m = walkEntriesAt (fun id steps => (slot, id) :: steps) m
  | [] => by rw [walkStepsEntries]; rfl
  | (id, n) :: rest => by
    rw [walkStepsEntries, walkStepsEntries_eq slot rest, walkEntriesAt, walkEntriesAt,
      List.flatMap_cons]

/-- The walk is at the node first, and then goes through the map that it goes on through. -/
theorem walkSteps_eq (n : Node) :
    n.walkSteps = ([], n) :: (n.walkSlot.get n).elim []
      (walkEntriesAt fun id steps => (n.walkSlot, id) :: steps) := by
  have hmap : ∀ (slot : ChildSlot) (o : Option ChildMap),
      walkStepsMap slot o = o.elim [] (walkEntriesAt fun id steps => (slot, id) :: steps) := by
    intro slot o
    cases o with
    | none => rw [walkStepsMap]; rfl
    | some m => rw [walkStepsMap, walkStepsEntries_eq]; rfl
  obtain ⟨key, category, data, previous, status, versions, links, children, units⟩ := n
  rw [walkSteps, walkSlot]
  cases children with
  | some m => exact congrArg _ (hmap .children (some m))
  | none => exact congrArg _ (hmap .units units)

theorem walkEntries_eq : ∀ m : ChildMap, walkEntries m = m.flatMap fun e => e.2.walk
  | [] => by rw [walkEntries]; rfl
  | (_, n) :: rest => by rw [walkEntries, walkEntries_eq rest, List.flatMap_cons]

theorem walk_eq (n : Node) : n.walk = n :: (n.walkSlot.get n).elim [] walkEntries := by
  have hmap : ∀ o : Option ChildMap, walkMap o = o.elim [] walkEntries := by
    intro o
    cases o <;> rw [walkMap] <;> rfl
  obtain ⟨key, category, data, previous, status, versions, links, children, units⟩ := n
  rw [walk, walkSlot]
  cases children with
  | some m => exact congrArg _ (hmap (some m))
  | none => exact congrArg _ (hmap units)

/-- **The nodes are those of the walk**, in its order. -/
theorem map_snd_walkSteps (n : Node) : n.walkSteps.map Prod.snd = n.walk := by
  refine induction (motive := fun n => n.walkSteps.map Prod.snd = n.walk) (fun n ih => ?_) n
  rw [walkSteps_eq, walk_eq, List.map_cons]
  congr 1
  cases hm : n.walkSlot.get n with
  | none => rfl
  | some m =>
    rw [Option.elim_some, Option.elim_some, walkEntries_eq, walkEntriesAt, List.map_flatMap]
    refine List.flatMap_congr fun e he => ?_
    rw [List.map_map, ← ih _ m hm e he]
    rfl

/-! ## 2. Every node rewritten -/

section Rewritten

variable {f g : Node → Node}

theorem walkSlot_mapAll (hf : OwnFields f) (n : Node) : (n.mapAll f).walkSlot = n.walkSlot := by
  have hchildren : (n.mapAll f).children = n.children.map (mapAllEntries f) :=
    get_mapAll hf .children n
  rw [walkSlot, walkSlot, hchildren, Option.isSome_map]

/-- **The walk comes by at the same places** after every node was rewritten. -/
theorem walkSteps_mapAll (hf : OwnFields f) (n : Node) :
    (n.mapAll f).walkSteps = n.walkSteps.map fun s => (s.1, s.2.mapAll f) := by
  refine induction (motive := fun n =>
    (n.mapAll f).walkSteps = n.walkSteps.map fun s => (s.1, s.2.mapAll f)) (fun n ih => ?_) n
  rw [walkSteps_eq, walkSteps_eq n, walkSlot_mapAll hf, get_mapAll hf, List.map_cons]
  congr 1
  cases hm : n.walkSlot.get n with
  | none => rfl
  | some m =>
    rw [Option.map_some, Option.elim_some, Option.elim_some, mapAllEntries_eq, walkEntriesAt,
      walkEntriesAt, List.flatMap_map, List.map_flatMap]
    refine List.flatMap_congr fun e he => ?_
    rw [ih _ m hm e he, List.map_map, List.map_map]
    rfl

theorem walk_mapAll (hf : OwnFields f) (n : Node) : (n.mapAll f).walk = n.walk.map (mapAll f) := by
  rw [← map_snd_walkSteps, walkSteps_mapAll hf, List.map_map, ← map_snd_walkSteps, List.map_map]
  rfl

/-! ## 3. Every node at or below a path rewritten -/

variable {β : Type} {φ : Node → β}

/-- What is seen of a node when those that are covered were rewritten. -/
def rewrittenIf (g : Node → Node) (covered : Bool) (n : Node) : Node :=
  if covered then n.mapAll g else n

/-- Entries under other ids than the one modified are not covered. -/
theorem map_walkEntriesAt_of_notMem {α : Type} {at_ : String → List (ChildSlot × String) → α}
    {covered : α → Bool} {id : String} {steps : List (ChildSlot × String)}
    (hcovered : ∀ k s, covered (at_ k s) = (k == id && steps.isPrefixOf s)) {m : ChildMap}
    (hid : id ∉ Keyed.keys m) :
    (walkEntriesAt at_ m).map (fun s => (s.1, φ s.2)) =
      (walkEntriesAt at_ m).map fun s => (s.1, φ (s.2.rewrittenIf g (covered s.1))) := by
  refine List.map_congr_left fun s hs => ?_
  rw [walkEntriesAt, List.mem_flatMap] at hs
  obtain ⟨e, he, hs⟩ := hs
  obtain ⟨s', -, rfl⟩ := List.mem_map.mp hs
  have hne : e.1 ≠ id := by
    rintro rfl
    exact hid (List.mem_map_of_mem he)
  rw [hcovered, beq_eq_false_iff_ne.mpr hne]
  rfl

/-- **One entry of a map rewritten from some steps on.** -/
theorem map_walkEntriesAt_modify {α : Type} {at_ : String → List (ChildSlot × String) → α}
    {covered : α → Bool} {id : String} {steps : List (ChildSlot × String)}
    (hcovered : ∀ k s, covered (at_ k s) = (k == id && steps.isPrefixOf s)) {h : Node → Node} :
    ∀ {m : ChildMap}, Keyed.Distinct m →
      (∀ c, Keyed.get? id m = some c →
        (h c).walkSteps.map (fun s => (s.1, φ s.2)) =
          c.walkSteps.map fun s => (s.1, φ (s.2.rewrittenIf g (steps.isPrefixOf s.1)))) →
        (walkEntriesAt at_ (Keyed.modify id h m)).map (fun s => (s.1, φ s.2)) =
          (walkEntriesAt at_ m).map fun s => (s.1, φ (s.2.rewrittenIf g (covered s.1)))
  | [], _, _ => rfl
  | (k, c) :: rest, hdistinct, hhere => by
    obtain ⟨hk, hrest⟩ := List.nodup_cons.mp hdistinct
    have hcons : ∀ (c : Node) (m : ChildMap), walkEntriesAt at_ ((k, c) :: m) =
        (c.walkSteps.map fun s => (at_ k s.1, s.2)) ++ walkEntriesAt at_ m := fun _ _ => rfl
    rw [Keyed.modify]
    by_cases hid : k = id
    · subst hid
      have hsteps := hhere c (by rw [Keyed.get?, if_pos rfl])
      have hfirst := congrArg (List.map fun s : List (ChildSlot × String) × β => (at_ k s.1, s.2)) hsteps
      rw [if_pos rfl, hcons, hcons, List.map_append, List.map_append,
        map_walkEntriesAt_of_notMem hcovered hk]
      congr 1
      rw [List.map_map, List.map_map] at hfirst ⊢
      refine hfirst.trans (List.map_congr_left fun s _ => ?_)
      simp only [Function.comp_apply, hcovered, beq_self_eq_true, Bool.true_and]
    · rw [if_neg hid, hcons, hcons, List.map_append, List.map_append,
        map_walkEntriesAt_modify hcovered hrest fun c hc => hhere c (by rw [Keyed.get?, if_neg hid, hc])]
      congr 1
      rw [List.map_map, List.map_map]
      refine List.map_congr_left fun s _ => ?_
      simp only [Function.comp_apply, hcovered, beq_eq_false_iff_ne.mpr hid, Bool.false_and]
      rfl

theorem walkSlot_set {n : Node} {slot : ChildSlot} {m m' : ChildMap} (hm : slot.get n = some m) :
    (slot.set n m').walkSlot = n.walkSlot := by
  cases slot with
  | children =>
    have hm : n.children = some m := hm
    rw [walkSlot, walkSlot, hm]
    rfl
  | units => rfl

/-- Nothing is covered by steps through a map that is not there, or that the walk does not go through. -/
theorem map_walkSteps_apart {n : Node} {slot : ChildSlot} (h : slot = n.walkSlot → slot.get n = none)
    (id : String) (steps : List (ChildSlot × String)) :
    n.walkSteps.map (fun s => (s.1, φ s.2)) =
      n.walkSteps.map fun s => (s.1, φ (s.2.rewrittenIf g (((slot, id) :: steps).isPrefixOf s.1))) := by
  refine List.map_congr_left fun s hs => ?_
  rw [walkSteps_eq, List.mem_cons] at hs
  obtain rfl | hs := hs
  · rfl
  · cases hm : n.walkSlot.get n with
    | none => rw [hm] at hs; cases hs
    | some m =>
      rw [hm, Option.elim_some, walkEntriesAt, List.mem_flatMap] at hs
      obtain ⟨e, -, hs⟩ := hs
      obtain ⟨s', -, rfl⟩ := List.mem_map.mp hs
      have hslot : slot ≠ n.walkSlot := by
        rintro rfl
        rw [h rfl] at hm
        cases hm
      have hstep : ((slot, id) == (n.walkSlot, e.1)) = false :=
        beq_eq_false_iff_ne.mpr fun heq => hslot (Prod.mk.inj heq).1
      rw [List.isPrefixOf, hstep]
      rfl

/-- **The walk after every node at or below some ids was rewritten.** -/
theorem map_walkSteps_update
    (hφ : ∀ (slot : ChildSlot) n m m', slot.get n = some m → φ (slot.set n m') = φ n)
    (hg : OwnFields g) :
    ∀ {ids : List String} {depth : Nat} {n : Node}, n.UniqueIds →
      (update (mapAll g) depth ids n).walkSteps.map (fun s => (s.1, φ s.2)) =
        n.walkSteps.map fun s =>
          (s.1, φ (s.2.rewrittenIf g ((stepsAlong depth ids).isPrefixOf s.1))) := by
  intro ids
  induction ids with
  | nil =>
    intro depth n _
    rw [update, walkSteps_mapAll hg, List.map_map]
    rfl
  | cons id rest ih =>
    intro depth n h
    rw [stepsAlong]
    cases hm : (ChildSlot.atDepth depth).get n with
    | none =>
      rw [update_cons_of_none hm]
      exact map_walkSteps_apart (fun _ => hm) _ _
    | some m =>
      rw [update_cons_of_some hm]
      by_cases hslot : n.walkSlot = .atDepth depth
      · rw [walkSteps_eq, walkSteps_eq n, walkSlot_set hm, hslot, ChildSlot.get_set, hm,
          Option.elim_some, Option.elim_some, List.map_cons, List.map_cons, hφ _ n m _ hm]
        congr 1
        refine map_walkEntriesAt_modify (fun k s => ?_) (h.own hm) fun c hc =>
          ih (h.below hm (Keyed.mem_of_get? hc))
        rw [List.isPrefixOf, Bool.eq_iff_iff, Bool.and_eq_true, Bool.and_eq_true, beq_iff_eq,
          beq_iff_eq, Prod.mk.injEq, eq_self_iff_true, true_and, eq_comm]
      · have hsame : ∀ m', ((ChildSlot.atDepth depth).set n m').walkSteps.map (fun s => (s.1, φ s.2)) =
            n.walkSteps.map fun s => (s.1, φ s.2) := by
          intro m'
          rw [walkSteps_eq, walkSteps_eq n, walkSlot_set hm, ChildSlot.get_set_of_ne hslot, List.map_cons,
            List.map_cons, hφ _ n m _ hm]
        rw [hsame]
        exact map_walkSteps_apart (fun h => absurd h.symm hslot) _ _

end Rewritten

end Node

/-! ## 4. Whole outlines -/

namespace Tree

/-- The nodes of the walk, each with the place where it stands. -/
def walkPlaces (t : Tree) : List (Place × Node) :=
  (.underCourse [], t.courseInfo) :: Node.walkEntriesAt .underSection t.sections

/-- **The nodes are those of the walk**, in its order. -/
theorem map_snd_walkPlaces (t : Tree) : t.walkPlaces.map Prod.snd = t.walk := by
  rw [walkPlaces, walk, List.map_cons, Node.walkEntries_eq, Node.walkEntriesAt, List.map_flatMap]
  congr 1
  refine List.flatMap_congr fun e _ => ?_
  rw [List.map_map, ← Node.map_snd_walkSteps]
  rfl

/-- **The walk after every node at or below a path was rewritten** comes by at the same places.  Of the
nodes that the path covers it sees what was made of them, and of all others what it saw before, but for
what is in their maps. -/
theorem map_walkPlaces_update {β : Type} {φ : Node → β} {g : Node → Node}
    (hφ : ∀ (slot : ChildSlot) n m m', slot.get n = some m → φ (slot.set n m') = φ n)
    (hg : OwnFields g) {t : Tree} (ht : t.UniqueIds) (p : NodePath) :
    (t.update p (Node.mapAll g)).walkPlaces.map (fun s => (s.1, φ s.2)) =
      t.walkPlaces.map fun s => (s.1, φ (s.2.rewrittenIf g (p.covers s.1))) := by
  match p with
  | .courseInfo =>
    rw [update, walkPlaces, walkPlaces, List.map_cons, List.map_cons]
    congr 1
    refine List.map_congr_left fun s hs => ?_
    obtain ⟨e, -, hs⟩ := List.mem_flatMap.mp hs
    obtain ⟨s', -, rfl⟩ := List.mem_map.mp hs
    rfl
  | .outline [] => rfl
  | .outline (id :: rest) =>
    rw [update, walkPlaces, walkPlaces, List.map_cons, List.map_cons]
    congr 1
    refine Node.map_walkEntriesAt_modify (fun k s => ?_) ht.sections fun s hs =>
      Node.map_walkSteps_update hφ hg (ht.below _ (Keyed.mem_of_get? hs))
    have hid : (k == id) = (id == k) := BEq.comm
    rw [hid]
    rfl

/-- **What is counted on the walk**, after every node at or below a path was rewritten. -/
theorem countP_walk_update {P : Node → Bool} {g : Node → Node}
    (hP : ∀ (slot : ChildSlot) n m m', slot.get n = some m → P (slot.set n m') = P n)
    (hg : OwnFields g) {t : Tree} (ht : t.UniqueIds) (p : NodePath) :
    (t.update p (Node.mapAll g)).walk.countP P =
      t.walkPlaces.countP fun s => P (s.2.rewrittenIf g (p.covers s.1)) := by
  have hplaces := congrArg (List.map Prod.snd) (map_walkPlaces_update hP hg ht p)
  rw [List.map_map, List.map_map] at hplaces
  have hcounts := congrArg (List.countP id) hplaces
  rw [List.countP_map, List.countP_map] at hcounts
  rw [← map_snd_walkPlaces, List.countP_map]
  exact hcounts

/-- What the rewriting does not change is counted as before. -/
theorem countP_walk_update_same {P : Node → Bool} {g : Node → Node}
    (hP : ∀ (slot : ChildSlot) n m m', slot.get n = some m → P (slot.set n m') = P n)
    (hg : OwnFields g) (hsame : ∀ n : Node, P (n.mapAll g) = P n) {t : Tree} (ht : t.UniqueIds)
    (p : NodePath) : (t.update p (Node.mapAll g)).walk.countP P = t.walk.countP P := by
  rw [countP_walk_update hP hg ht, ← t.map_snd_walkPlaces, List.countP_map]
  refine List.countP_congr fun s _ => ?_
  rw [Node.rewrittenIf, Function.comp_apply]
  split
  · rw [hsame]
  · rfl

end Tree

/-! ## 5. Counts -/

namespace Stats

/-- **The counts are numbers of nodes.** -/
theorem foldl_count :
    ∀ (nodes : List Node) (s : Stats), nodes.foldl count s =
      { sections := s.sections + nodes.countP (·.kind == .section)
        subsections := s.subsections + nodes.countP (·.kind == .subsection)
        units := s.units + nodes.countP (·.kind == .unit)
        unitsLoaded := s.unitsLoaded + nodes.countP fun n => n.kind == .unit && n.units.isSome
        contents := s.contents + nodes.countP (·.kind == .content)
        approved := s.approved + nodes.countP Node.isApproved
        eligible := s.eligible + nodes.countP Node.isEligible }
  | [], s => rfl
  | n :: rest, s => by
    rw [List.foldl_cons, foldl_count rest]
    simp only [List.countP_cons, count, countKind]
    cases n.kind <;> simp <;> omega

end Stats

/-- **The counts over an outline** are numbers of nodes on the walk. -/
theorem Tree.stats_eq (t : Tree) :
    t.stats =
      { sections := t.walk.countP (·.kind == .section)
        subsections := t.walk.countP (·.kind == .subsection)
        units := t.walk.countP (·.kind == .unit)
        unitsLoaded := t.walk.countP fun n => n.kind == .unit && n.units.isSome
        contents := t.walk.countP (·.kind == .content)
        approved := t.walk.countP Node.isApproved
        eligible := t.walk.countP Node.isEligible } := by
  rw [stats, Stats.foldl_count]
  simp only [Nat.zero_add]

end CourseReview
