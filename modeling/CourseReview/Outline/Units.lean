import CourseReview.Outline.Approval

/-!
# Units and their content

The content of a unit is fetched on demand and put into the outlines of both courses at once.  This
file says which units still need fetching, lists the units of a part of the outline, and puts the
content fetched for a unit in place.
-/

namespace CourseReview

/-- The content of one unit on both sides. -/
structure UnitComponents where
  rerun : Option ChildMap := none
  base : Option ChildMap := none

/-- Whether the content of the node at a path has to be fetched before it can be shown. -/
def Node.needsFetch (n : Node) (p : NodePath) : Bool :=
  p.isUnit && n.units.isNone

/-- It has to be fetched for units that have none. -/
theorem Node.needsFetch_iff {n : Node} {p : NodePath} :
    n.needsFetch p = true ↔ p.isUnit = true ∧ n.units = none := by
  rw [needsFetch, Bool.and_eq_true, Option.isNone_iff_eq_none]

namespace Node

mutual

/-- The paths of the units at or below a node, in order. -/
def unitPaths (p : NodePath) : Node → Outcome (List NodePath)
  | ⟨_, _, _, _, _, _, _, children, _⟩ =>
    if p.isUnit then .ok [p] else unitPathsMap p children

/-- The paths of the units of an optional child map. -/
def unitPathsMap (p : NodePath) : Option (List (String × Node)) → Outcome (List NodePath)
  | none => .ok []
  | some entries => unitPathsEntries p entries

/-- The paths of the units of the entries of a child map. -/
def unitPathsEntries (p : NodePath) : List (String × Node) → Outcome (List NodePath)
  | [] => .ok []
  | (id, n) :: rest => do
    let q ← p.child id
    let here ← unitPaths q n
    let after ← unitPathsEntries p rest
    pure (here ++ after)

end

end Node

namespace Tree

/-- The paths of the units of the sections given. -/
def unitPathsOf : ChildMap → Outcome (List NodePath)
  | [] => .ok []
  | (id, n) :: rest => do
    let here ← n.unitPaths (.ofSection id)
    let after ← unitPathsOf rest
    pure (here ++ after)

/-- The paths of the units at or below a path, in the order of the outline; the course's own node
stands for the whole outline. -/
def unitPaths (t : Tree) (under : NodePath) : Outcome (List NodePath) :=
  if under.isCourseInfo then unitPathsOf t.sections
  else do
    let n ← under.require t
    n.unitPaths under

end Tree

/-- What putting the content of a unit in place makes of both outlines, and whether any of the
content of the translated course can be approved. -/
structure UnitMerge where
  rerun : TreeRevision
  base : TreeRevision
  hasEligible : Bool

/-- The outlines afterwards. -/
def UnitMerge.outline (m : UnitMerge) : Outline :=
  { rerun := m.rerun.tree, base := m.base.tree }

/-- A unit with its content. -/
def Node.withUnits (n : Node) (content : ChildMap) : Revision :=
  .rebuilt { n with units := some content } [] (allNewEntries content)

/-- Puts the content of a unit in place on both sides; a side without content gets an empty map. -/
def Outline.mergeUnit (o : Outline) (p : NodePath) (components : UnitComponents) :
    Outcome UnitMerge :=
  if !p.isUnit then .error (.invalidPath (.notAUnit p.text))
  else do
    let rerunUnits := components.rerun.getD []
    let baseUnits := components.base.getD []
    let rerun ← o.rerun.revise p (·.withUnits rerunUnits)
    let base ← o.base.revise p (·.withUnits baseUnits)
    pure
      { rerun, base
        hasEligible := rerunUnits.any fun (_, n) => !n.collectEligible.isEmpty }

end CourseReview
