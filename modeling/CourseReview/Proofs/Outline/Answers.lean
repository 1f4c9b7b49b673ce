import CourseReview.Proofs.Outline.Collection
import CourseReview.Proofs.Outline.Everywhere
import CourseReview.Proofs.Outline.Replacement

/-!
# Answers to an approval, folded in

The answers to an approval are folded into a part of an outline with as few new nodes as can be: a map
is rebuilt when something below it is named, and a node with nothing named is handed on.  This file
settles that none of that can be told from the outline that comes out.  It is the one in which every
node at or below the path was visited, through both maps and at any depth, and the answer for its block
recorded in it, if there is one (`Node.foldApproval_eq_mapAll`).

What recording an answer does to a node is spelled out field by field in `Node.Answered`.
`Tree.approve_records_everywhere` says that this is what happens to every node at or below the path, and
that nothing happens elsewhere.
-/

namespace CourseReview

namespace Node

/-! ## 1. One node -/

/-- The node with the answer for its block recorded, if there is one. -/
def recordAnswer (patch : ApprovalPatch) (n : Node) : Node :=
  (Keyed.get? n.usageKey patch).elim n n.recordApproval

theorem usageKey_recordAnswer (q : ApprovalPatch) (n : Node) :
    (n.recordAnswer q).usageKey = n.usageKey := by
  rw [recordAnswer]
  cases Keyed.get? n.usageKey q <;> rfl

theorem recordAnswer_of_none {q : ApprovalPatch} {n : Node} (h : Keyed.get? n.usageKey q = none) :
    n.recordAnswer q = n := by
  rw [recordAnswer, h]
  rfl

theorem recordAnswer_of_some {q : ApprovalPatch} {n : Node} {entry : ApprovalEntry}
    (h : Keyed.get? n.usageKey q = some entry) : n.recordAnswer q = n.recordApproval entry := by
  rw [recordAnswer, h]
  rfl

/-- Recording an answer does not reach into maps. -/
theorem ownFields_recordAnswer (patch : ApprovalPatch) : OwnFields (recordAnswer patch) where
  get slot n := by
    rw [recordAnswer]
    cases Keyed.get? n.usageKey patch <;> cases slot <;> rfl
  set slot n m := by
    have hkey : (slot.set n m).usageKey = n.usageKey := by cases slot <;> rfl
    rw [recordAnswer, recordAnswer, hkey]
    cases Keyed.get? n.usageKey patch <;> cases slot <;> rfl

/-- What has become of the version status of a node by an answer: the applied version is the one that
the answer names, which is then listed, and the latest is the last. -/
structure HistoryAnswered (entry : ApprovalEntry) (vs vs' : VersionStatus) : Prop where
  applied : vs'.applied = entry.appliedTranslation
  appliedVersion : vs'.appliedVersion = entry.appliedVersion
  unnamed : entry.appliedVersion = none →
    vs'.versions = vs.versions ∧ vs'.latestVersion = vs.latestVersion
  named : ∀ id, entry.appliedVersion = some id →
    vs'.versions =
        (if vs.lists id then vs.versions else vs.versions ++ [⟨id, entry.appliedVersionDate⟩]) ∧
      vs'.latestVersion = vs'.versions.getLast?.map (·.id)

theorem historyAnswered_recordApproval (entry : ApprovalEntry) (vs : VersionStatus) :
    HistoryAnswered entry vs (vs.recordApproval entry) where
  applied := vs.applied_recordApproval entry
  appliedVersion := vs.appliedVersion_recordApproval entry
  unnamed h := vs.versions_recordApproval_none h
  named id h := by
    obtain ⟨hversions, hlatest⟩ := vs.versions_recordApproval_some h
    rw [VersionStatus.LatestIsLast, VersionStatus.ids, List.getLast?_map] at hlatest
    exact ⟨hversions, hlatest⟩

/-- What has become of a node by the answers, apart from the nodes in its maps.  A status and a version
status that the node did not have start out as the default ones. -/
structure Answered (patch : ApprovalPatch) (n n' : Node) : Prop where
  /-- What an approval is not about. -/
  same : n'.usageKey = n.usageKey ∧ n'.category = n.category ∧ n'.data = n.data ∧
    n'.previous = n.previous ∧ n'.links = n.links
  /-- Either map is there as before, with its ids in their order. -/
  ids : ∀ slot : ChildSlot, (slot.get n').map Keyed.keys = (slot.get n).map Keyed.keys
  /-- A node without an answer. -/
  unnamed : Keyed.get? n.usageKey patch = none →
    n'.status = n.status ∧ n'.versionStatus = n.versionStatus
  /-- A node with one. -/
  named : ∀ entry, Keyed.get? n.usageKey patch = some entry →
    n'.status = some { n.status.getD {} with
      approved := entry.approved, applied := entry.appliedTranslation } ∧
    ∃ vs, n'.versionStatus = some vs ∧ HistoryAnswered entry (n.versionStatus.getD {}) vs

/-! ## 2. Every node -/

/-- An approval revises the nodes of a map one by one. -/
theorem revised_foldApprovalEntries (patch : ApprovalPatch) : ∀ {m : ChildMap},
    (∀ e ∈ m, (e.2.foldApproval patch).node e.2 = e.2.mapAll (recordAnswer patch)) →
      m.revised (foldApprovalEntries patch m) = mapAllEntries (recordAnswer patch) m
  | [], _ => rfl
  | (id, n) :: rest, h => by
    obtain ⟨hhere, hrest⟩ := List.forall_mem_cons.mp h
    rw [foldApprovalEntries, ChildMap.revised, mapAllEntries, hhere,
      revised_foldApprovalEntries patch hrest]

/-- **Folding in the answers is visiting every node**, through both maps and at any depth, and recording
the answer for its block. -/
theorem foldApproval_eq_mapAll (patch : ApprovalPatch) (n : Node) :
    (n.foldApproval patch).node n = n.mapAll (recordAnswer patch) := by
  refine induction (motive := fun n =>
    (n.foldApproval patch).node n = n.mapAll (recordAnswer patch)) (fun n ih => ?_) n
  have hmap : ∀ (slot : ChildSlot) (o : Option ChildMap), slot.get n = o →
      (o.map fun m => ChildMap.revised m (foldApprovalEntries patch m)) =
        o.map (mapAllEntries (recordAnswer patch)) := by
    intro slot o hm
    cases o with
    | none => rfl
    | some m => exact congrArg some (revised_foldApprovalEntries patch (ih slot m hm))
  have hchildren := hmap .children n.children rfl
  have hunits := hmap .units n.units rfl
  rw [node_foldApproval, mapAll_eq, hchildren, hunits, recordAnswer]
  cases Keyed.get? n.usageKey patch <;> rfl

/-- Every node visited is answered. -/
theorem answered_mapAll (patch : ApprovalPatch) (n : Node) :
    Answered patch n (n.mapAll (recordAnswer patch)) where
  same := by
    rw [mapAll_eq, recordAnswer]
    dsimp only
    cases Keyed.get? n.usageKey patch <;> exact ⟨rfl, rfl, rfl, rfl, rfl⟩
  ids slot := by
    rw [get_mapAll (ownFields_recordAnswer patch), Option.map_map]
    congr 1
    exact funext (keys_mapAllEntries _)
  unnamed h := by
    rw [mapAll_eq, recordAnswer]
    simp only [h]
    exact ⟨rfl, rfl⟩
  named entry h := by
    rw [mapAll_eq, recordAnswer]
    simp only [h]
    exact ⟨rfl, _, rfl, historyAnswered_recordApproval entry _⟩

end Node

/-! ## 3. Whole outlines -/

/-- The node as it is by itself, whatever its maps hold. -/
def Node.bare (n : Node) : Node :=
  { n with children := none, units := none }

/-- **Folding in the answers is the plain rewriting of every node at or below the path.**  For every
outline, every path that leads to a node, and all answers,

* the outline that comes out is the old one with every node at or below the path visited and the answer
  for its block recorded in it;
* so at every place that the path covers, in whichever maps and however deep, stands the node that stood
  there, with the answer for its block and otherwise as it was;
* at every other place stands the node that stood there, also where there is an answer for its block,
  and no map but those on the way to the path has other entries than before.  -/
theorem Tree.approve_records_everywhere (t : Tree) {p : NodePath} {n : Node}
    (hn : p.resolve t = some n) (patch : ApprovalPatch) :
    ∃ r, t.approve p patch = .ok r ∧
      r.tree = t.update p (Node.mapAll (Node.recordAnswer patch)) ∧
      (∀ pl x, p.covers pl = true → pl.resolve t = some x →
        ∃ x', pl.resolve r.tree = some x' ∧ x.Answered patch x') ∧
      (∀ pl, p.covers pl = true → pl.resolve t = none → pl.resolve r.tree = none) ∧
      (∀ pl, p.covers pl = false →
        (pl.resolve r.tree).map Node.bare = (pl.resolve t).map Node.bare) ∧
      t.UpdatedAt p (Node.mapAll (Node.recordAnswer patch)) r.tree := by
  obtain ⟨r, hr⟩ := exists_revise_of_resolve hn (Node.foldApproval patch)
  have htree : r.tree = t.update p (Node.mapAll (Node.recordAnswer patch)) := by
    rw [revise_eq_update hr, funext (Node.foldApproval_eq_mapAll patch)]
  have hcovered : ∀ pl, p.covers pl = true →
      pl.resolve r.tree = (pl.resolve t).map (Node.mapAll (Node.recordAnswer patch)) := by
    intro pl hpl
    obtain ⟨pl₀, steps, hp, rfl⟩ := NodePath.covers_iff.mp hpl
    rw [Place.resolve_extend, Place.resolve_extend, ← NodePath.resolve_place hp,
      ← NodePath.resolve_place hp, htree, resolve_update_self, hn, Option.map_some,
      Option.bind_some, Option.bind_some, Node.follow_mapAll (Node.ownFields_recordAnswer patch)]
  refine ⟨r, hr, htree, fun pl x hpl hx => ?_, fun pl hpl hx => ?_, fun pl hpl => ?_, ?_⟩
  · exact ⟨_, by rw [hcovered pl hpl, hx, Option.map_some], x.answered_mapAll patch⟩
  · rw [hcovered pl hpl, hx, Option.map_none]
  · rw [htree]
    exact map_resolve_update_of_not_covers (fun slot n m => by cases slot <;> rfl) t _ hpl
  · rw [htree]
    exact updatedAt_update hn _

namespace Sample

/-- Two blocks of one key in the two maps of a unit, and a third block of that key in a section beside. -/
def sharedKey : Tree :=
  let chapter : Node := { usageKey := "chapter", children := some [("Q1", .ofBlock "sequential" "")] }
  { courseInfo := .ofBlock "course" "course"
    sections :=
      [("S1", { chapter with units := some [("X", content)] }), ("S2", content)] }

/-- An answer for that key. -/
def sharedAnswer : ApprovalPatch :=
  [("html", { approved := true, appliedTranslation := true, appliedVersion := some 7 })]

end Sample

open Sample in
/-- A block in the map that no path leads through is answered, and the one of the same key in the
section beside is not. -/
theorem Tree.approve_records_beside_children :
    ∃ r x', sharedKey.approve (.outline ["S1"]) sharedAnswer = .ok r ∧
      (Place.underSection "S1" [(.units, "X")]).resolve r.tree = some x' ∧
      content.Answered sharedAnswer x' ∧
      (NodePath.outline ["S2"]).resolve r.tree = some content := by
  obtain ⟨r, hr, -, hcovered, -, -, hupdated⟩ :=
    approve_records_everywhere sharedKey (p := .outline ["S1"]) rfl sharedAnswer
  obtain ⟨x', hx', hanswered⟩ :=
    hcovered (.underSection "S1" [(.units, "X")]) content (by decide) rfl
  exact ⟨r, x', hr, hx', hanswered, hupdated.beside (.outline ["S2"]) rfl rfl⟩

end CourseReview
