import CourseReview.Outline.Node

/-!
# Outline trees

A course outline is the course's own node and, beside it, the map of its sections.  A review holds
two outlines side by side: the rerun, which is the translated course, and the base it was made
from.
-/

namespace CourseReview

/-- The outline of one course. -/
structure Tree where
  courseInfo : Node
  sections : ChildMap := []

/-- The outlines of a translated course and of its base. -/
structure Outline where
  rerun : Tree
  base : Tree

namespace Node

mutual

/-- The node and everything below it, each node before what is below it. -/
def walk : Node → List Node
  | ⟨key, category, data, previous, status, versions, links, children, units⟩ =>
    ⟨key, category, data, previous, status, versions, links, children, units⟩ ::
      if children.isSome then walkMap children else walkMap units

/-- The nodes of an optional child map. -/
def walkMap : Option (List (String × Node)) → List Node
  | none => []
  | some entries => walkEntries entries

/-- The nodes of the entries of a child map. -/
def walkEntries : List (String × Node) → List Node
  | [] => []
  | (_, n) :: rest => walk n ++ walkEntries rest

end

end Node

/-- Counts over the nodes of an outline. -/
structure Stats where
  sections : Nat := 0
  subsections : Nat := 0
  units : Nat := 0
  unitsLoaded : Nat := 0
  contents : Nat := 0
  approved : Nat := 0
  eligible : Nat := 0
deriving DecidableEq, Repr

namespace Stats

/-- The counts with one more node of that level. -/
def countKind (s : Stats) (n : Node) : Stats :=
  match n.kind with
  | .courseInfo => s
  | .section => { s with sections := s.sections + 1 }
  | .subsection => { s with subsections := s.subsections + 1 }
  | .unit =>
    { s with
      units := s.units + 1
      unitsLoaded := s.unitsLoaded + if n.units.isSome then 1 else 0 }
  | .content => { s with contents := s.contents + 1 }

/-- The counts with one more node. -/
def count (s : Stats) (n : Node) : Stats :=
  let s := s.countKind n
  { s with
    approved := s.approved + if n.isApproved then 1 else 0
    eligible := s.eligible + if n.isEligible then 1 else 0 }

end Stats

namespace Tree

/-- The nodes of the outline in order: the course's own node, of which nothing below is visited,
then each section with everything below it. -/
def walk (t : Tree) : List Node :=
  t.courseInfo :: Node.walkEntries t.sections

/-- The counts over the outline. -/
def stats (t : Tree) : Stats :=
  t.walk.foldl Stats.count {}

/-- Whether two outlines are equal when neither the order of members in payloads nor the order of
nodes counts. -/
def same (s t : Tree) : Bool :=
  s.courseInfo.same t.courseInfo && Node.sameMaps (some s.sections) (some t.sections)

end Tree

end CourseReview
