import CourseReview.Error
import CourseReview.Outline.Tree
import CourseReview.Text.Blank

/-!
# Paths into an outline

A path is either the course's own node, which stands outside the map of sections, or a list of
local ids leading from a section downwards: a subsection and a unit through `children`, then
content through `units`.  Paths have a text form, the ids joined by slashes.
-/

namespace CourseReview

/-- The length of a path to content. -/
def maxDepth : Nat := 4

/-- The length of a path to a unit. -/
def unitDepth : Nat := 3

/-- The two places of a node where nodes below it are kept. -/
inductive ChildSlot where
  | children
  | units
deriving DecidableEq, Repr

namespace ChildSlot

/-- The place that leads downwards from a node whose path has that length. -/
def atDepth (depth : Nat) : ChildSlot :=
  if unitDepth ≤ depth then .units else .children

/-- The map kept in the place. -/
def get (slot : ChildSlot) (n : Node) : Option ChildMap :=
  match slot with
  | .children => n.children
  | .units => n.units

/-- The node with another map in the place. -/
def set (slot : ChildSlot) (n : Node) (m : ChildMap) : Node :=
  match slot with
  | .children => { n with children := some m }
  | .units => { n with units := some m }

@[simp] theorem get_set (slot : ChildSlot) (n : Node) (m : ChildMap) :
    slot.get (slot.set n m) = some m := by
  cases slot <;> rfl

end ChildSlot

/-- A place in an outline. -/
inductive NodePath where
  | courseInfo
  | outline (ids : List String)
deriving DecidableEq, Repr

namespace NodePath

/-! ## Text -/

/-- The text that stands for the course's own node. -/
def courseInfoText : String := "course_info"

/-- The path as text. -/
def text : NodePath → String
  | .courseInfo => courseInfoText
  | .outline ids => String.intercalate "/" ids

/-- Reads a path: white space and then slashes are taken off both ends, and what is left is the
word for the course's own node or one to four non-empty ids between slashes. -/
def parse (s : String) : Outcome NodePath :=
  let cs := Text.trimBy (· == '/') (Text.trimBy Text.isBlank s.toList)
  if cs = courseInfoText.toList then .ok .courseInfo
  else
    let pieces := Text.splitAt '/' cs
    if maxDepth < pieces.length || pieces.any List.isEmpty then
      .error (.invalidPath (.unreadable (String.ofList cs)))
    else .ok (.outline (pieces.map String.ofList))

/-! ## Building -/

/-- The path of a section. -/
def ofSection (id : String) : NodePath :=
  .outline [id]

/-- The path of the node below under that id. -/
def child (p : NodePath) (id : String) : Outcome NodePath :=
  match p with
  | .courseInfo => .error (.invalidPath .courseHasNoChildren)
  | .outline ids =>
    if maxDepth ≤ ids.length then .error (.invalidPath (.atContentDepth p.text))
    else .ok (.outline (ids ++ [id]))

/-- The path of the ids given, none of which may follow one that is missing. -/
def ofIds (sectionId subsectionId unitId contentId : Option String) : Outcome NodePath :=
  let parts := [sectionId, subsectionId, unitId, contentId]
  let given := (parts.takeWhile Option.isSome).length
  if given = 0 then .error (.invalidPath .sectionMissing)
  else if (parts.drop given).any Option.isSome then
    .error (.invalidPath (.parentMissing (given + 1)))
  else .ok (.outline (parts.take given).reduceOption)

/-! ## Relations -/

/-- The number of ids. -/
def depth : NodePath → Nat
  | .courseInfo => 0
  | .outline ids => ids.length

/-- The ids, of which the course's own node has none. -/
def ids : NodePath → List String
  | .courseInfo => []
  | .outline ids => ids

/-- Whether the path is that of the course's own node. -/
def isCourseInfo : NodePath → Bool
  | .courseInfo => true
  | .outline _ => false

/-- Whether the path has the length of a path to a unit. -/
def isUnit (p : NodePath) : Bool :=
  p.depth == unitDepth

/-- The path one level up, if there is one. -/
def parent? : NodePath → Option NodePath
  | .courseInfo => none
  | .outline ids => if 1 < ids.length then some (.outline ids.dropLast) else none

/-- Whether the other path is the same or leads on from this one. -/
def contains (p q : NodePath) : Bool :=
  match p, q with
  | .courseInfo, .courseInfo => true
  | .outline mine, .outline theirs => mine.isPrefixOf theirs
  | _, _ => false

/-! ## Looking up -/

/-- Follows ids downwards from a node whose path has the given length. -/
def descend : (depth : Nat) → List String → Node → Option Node
  | _, [], n => some n
  | depth, id :: rest, n =>
    match (ChildSlot.atDepth depth).get n with
    | none => none
    | some m =>
      match Keyed.get? id m with
      | none => none
      | some c => descend (depth + 1) rest c

/-- The node at the path. -/
def resolve (p : NodePath) (t : Tree) : Option Node :=
  match p with
  | .courseInfo => some t.courseInfo
  | .outline [] => none
  | .outline (id :: rest) => (Keyed.get? id t.sections).bind (descend 1 rest)

/-- The node at the path, which has to be there. -/
def require (p : NodePath) (t : Tree) : Outcome Node :=
  match p.resolve t with
  | some n => .ok n
  | none => .error (.nodeNotFound p.text)

end NodePath

end CourseReview
