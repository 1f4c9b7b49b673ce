import CourseReview.Proofs.Outline.Collection
import CourseReview.Proofs.Sync.BulkLoad

/-!
# Fetching the units below content

No unit lies at or below content, so that fetching all units there should come to nothing.  The walk
that lists units does not know that it is below them already: it goes on into the `children` of the
node, and leading the path of content on fails.  This file settles when that happens, which is exactly
when the content has children (`Node.unitPaths_content`), and that such content comes from the server
(`Synchronizer.content_with_children_not_listed`).
-/

namespace CourseReview

/-! ## 1. Listing -/

/-- **No unit lies at or below content.** -/
theorem NodePath.not_isUnit_of_content {p q : NodePath} (hp : p.depth = maxDepth)
    (hq : p.contains q = true) : q.isUnit = false := by
  obtain ⟨rfl, rfl⟩ | ⟨ids, rest, rfl, rfl⟩ := contains_cases hq
  · rfl
  · rw [depth, maxDepth] at hp
    rw [isUnit, beq_eq_false_iff_ne, depth, List.length_append, hp, unitDepth]
    omega

/-- The path of content cannot be led on. -/
theorem NodePath.child_content {p : NodePath} (hp : p.depth = maxDepth) (id : String) :
    p.child id = .error (.invalidPath (.atContentDepth p.text)) := by
  cases p with
  | courseInfo => cases hp
  | outline ids =>
    have hdepth : maxDepth ≤ ids.length := Nat.le_of_eq hp.symm
    rw [child, if_pos hdepth]

/-- **What is listed below content**: nothing, or the walk fails on its way into the children. -/
theorem Node.unitPaths_content {p : NodePath} (hp : p.depth = maxDepth) (n : Node) :
    (n.children.getD [] = [] → n.unitPaths p = .ok []) ∧
      (n.children.getD [] ≠ [] → n.unitPaths p = .error (.invalidPath (.atContentDepth p.text))) := by
  have hunit : p.isUnit = false := NodePath.not_isUnit_of_content hp (NodePath.contains_refl _)
  rw [unitPaths_of_not_isUnit hunit]
  cases n.children with
  | none => exact ⟨fun _ => by rw [unitPathsMap], fun hne => absurd rfl hne⟩
  | some m =>
    cases m with
    | nil => exact ⟨fun _ => by rw [unitPathsMap, unitPathsEntries], fun hne => absurd rfl hne⟩
    | cons e m =>
      refine ⟨fun hnil => absurd hnil (List.cons_ne_nil _ _), fun _ => ?_⟩
      rw [unitPathsMap, unitPathsEntries, NodePath.child_content hp]
      rfl

/-- The same from the outline. -/
theorem Tree.unitPaths_content {t : Tree} {p : NodePath} {n : Node} (hp : p.depth = maxDepth)
    (hn : p.resolve t = some n) :
    (n.children.getD [] = [] → t.unitPaths p = .ok []) ∧
      (n.children.getD [] ≠ [] → t.unitPaths p = .error (.invalidPath (.atContentDepth p.text))) := by
  cases p with
  | courseInfo => cases hp
  | outline ids =>
    rw [unitPaths_outline hn]
    exact Node.unitPaths_content hp n

/-! ## 2. Fetching -/

/-- Where no units are listed there are none to fetch. -/
theorem Call.start_loadUnits_of_nil {s : Session} {o : Outline} {p : NodePath}
    (ho : s.outline = some o) (hunits : o.rerun.unitPaths p = .ok []) :
    (Call.loadUnits p).start s = (.units [], s) := by
  rw [start, Session.beginLoadUnits, Session.requireOutline_ok.mpr ho]
  simp only [hunits]
  rfl

namespace Synchronizer

variable {y : Synchronizer} {o : Outline} {p : NodePath} {n : Node}

/-- A call that is finished when it begins, and has not touched the session, leaves no trace. -/
theorem start_of_begin {c : Call} {result : Outcome Answer}
    (h : y.begin c = { progress := .finished result, session := y.session }) (task : Nat) :
    y.start task c = ({ finished := [(task, result)] }, y) := by
  rw [start, h]
  simp [effects]

/-- **Fetching the units below content.**  It comes to nothing, without a request, exactly if the content
has no children; otherwise it fails, since the path of content cannot be led on.  Either way nothing
changes, and there was no unit to be fetched. -/
theorem loads_nothing_below_content (ho : y.session.outline = some o) (hp : p.depth = maxDepth)
    (hn : p.resolve o.rerun = some n) (task : Nat) :
    (∀ q, p.contains q = true → q.isUnit = false) ∧
    (n.children.getD [] = [] → o.rerun.unitPaths p = .ok [] ∧
      y.start task (.loadUnits p) = ({ finished := [(task, .ok (.unitsLoaded 0))] }, y)) ∧
    (n.children.getD [] ≠ [] →
      o.rerun.unitPaths p = .error (.invalidPath (.atContentDepth p.text)) ∧
      y.start task (.loadUnits p) =
        ({ finished := [(task, .error (.invalidPath (.atContentDepth p.text)))] }, y)) := by
  obtain ⟨hlisted, hfails⟩ := Tree.unitPaths_content hp hn
  refine ⟨fun q => NodePath.not_isUnit_of_content hp, fun hnil => ?_, fun hne => ?_⟩
  · have hunits := hlisted hnil
    refine ⟨hunits, start_of_begin ?_ task⟩
    rw [begin, Call.start_loadUnits_of_nil ho hunits]
    rfl
  · have hunits := hfails hne
    refine ⟨hunits, start_of_begin ?_ task⟩
    rw [begin, Call.start_loadUnits_of_error ho hunits]

end Synchronizer

/-! ## 3. Content from the server -/

namespace Sample

/-- A node as the server sends it, with what is below it in that field. -/
def sentNode (usageKey field : String) (below : Json) : Json :=
  .object [("usage_key", .string usageKey), (field, below)]

/-- An outline as the server sends it, with one piece of content that has these children. -/
def sentOutline (children : Json) : Json :=
  let unit := sentNode "vertical" "units" (.object [("C1", sentNode "split_test" "children" children)])
  let subsection := sentNode "sequential" "children" (.object [("U1", unit)])
  let chapter := sentNode "chapter" "children" (.object [("Q1", subsection)])
  .object
    [("course_info", .object [("usage_key", .string "course")]),
      ("base_course_info", .object [("usage_key", .string "base")]),
      ("course_outline", .object [("S1", chapter)])]

/-- One block below the content. -/
def blockBelow : Json :=
  .object [("X1", .object [("usage_key", .string "html")])]

/-- A synchronizer that has loaded the outline. -/
def afterLoad (o : Outline) : Synchronizer where
  server := { base := { scheme := "http", authority := some {}, path := .segments [""] }, paths := {} }
  limit := 1
  session := ((({} : Session).beginLoad "rerun").2.finishLoad ⟨1, "rerun"⟩ (.ok o)).2

end Sample

open Sample in
/-- Content that comes with an empty map of children has no units below it, and none are fetched; if the
map has a block in it, there are none either, but looking for them fails. -/
theorem Synchronizer.loads_nothing_below_sent_content :
    (∃ o, Outline.form.decode (sentOutline (.array [])) = .ok o ∧
      o.rerun.unitPaths contentPath = .ok [] ∧
      (afterLoad o).start 7 (.loadUnits contentPath) =
        ({ finished := [(7, .ok (.unitsLoaded 0))] }, afterLoad o)) ∧
    ∃ o, Outline.form.decode (sentOutline blockBelow) = .ok o ∧
      o.rerun.unitPaths contentPath = .error (.invalidPath (.atContentDepth contentPath.text)) ∧
      (afterLoad o).start 7 (.loadUnits contentPath) =
        ({ finished := [(7, .error (.invalidPath (.atContentDepth contentPath.text)))] }, afterLoad o) := by
  refine ⟨⟨_, rfl, ?_⟩, _, rfl, ?_⟩
  · exact (loads_nothing_below_content rfl rfl rfl 7).2.1 rfl
  · exact (loads_nothing_below_content rfl rfl rfl 7).2.2 (by exact List.cons_ne_nil _ _)

open Sample in
/-- **Content with children cannot be looked below.**  The server sends an outline in which content has
a block below it.  The path of the content leads to a node and has no unit below it, and fetching the
units below it fails for a path that was never asked for. -/
theorem Synchronizer.content_with_children_not_listed :
    ∃ o n, Outline.form.decode (sentOutline blockBelow) = .ok o ∧
      contentPath.depth = maxDepth ∧ contentPath.resolve o.rerun = some n ∧
      o.rerun.unitPaths contentPath = .error (.invalidPath (.atContentDepth "S1/Q1/U1/C1")) ∧
      ((afterLoad o).start 7 (.loadUnits contentPath)).1.finished =
        [(7, .error (.invalidPath (.atContentDepth "S1/Q1/U1/C1")))] :=
  ⟨_, _, rfl, rfl, rfl, rfl, rfl⟩

end CourseReview
