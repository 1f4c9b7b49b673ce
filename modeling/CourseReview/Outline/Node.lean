import CourseReview.Json.Basic
import CourseReview.Outline.Version

/-!
# Nodes of an outline

A node is one block of a course outline: the course itself, a section, a subsection, a unit, or a
piece of content.  Sections, subsections and units keep what is below them under `children`; a
unit keeps its content under `units`, which is absent until the content has been fetched.
-/

namespace CourseReview

/-- The level of the outline to which a block belongs. -/
inductive NodeKind where
  | courseInfo
  | section
  | subsection
  | unit
  | content
deriving DecidableEq, Repr

namespace NodeKind

/-- The level that a block category stands for; every category without a level of its own is
content. -/
def ofCategory : String → NodeKind
  | "course" => .courseInfo
  | "chapter" => .section
  | "sequential" => .subsection
  | "vertical" => .unit
  | _ => .content

/-- The name of the level in reports. -/
def name : NodeKind → String
  | .courseInfo => "course"
  | .section => "section"
  | .subsection => "subsection"
  | .unit => "unit"
  | .content => "content"

end NodeKind

/-- The state of a block's translation. -/
structure Status where
  approved : Bool := false
  destinationFlag : Bool := false
  isFullyTranslated : Bool := false
  applied : Bool := false
  parsedBlock : Bool := false
  lastFetched : Option String := none
  approvedBy : Option String := none
deriving DecidableEq, Repr

/-- A block can be approved when it is a destination block, translated in full, and not yet
approved. -/
def Status.isEligible (s : Status) : Bool :=
  !s.approved && s.destinationFlag && s.isFullyTranslated

/-- Pages about a block. -/
structure Links where
  pageUrl : Option String := none
  pageGroupUrl : Option String := none
deriving DecidableEq, Repr

/-- A block of the outline.  `previous` is the payload set aside while a version is previewed. -/
structure Node where
  usageKey : String
  category : String := ""
  data : Json := .null
  previous : Option Json := none
  status : Option Status := none
  versionStatus : Option VersionStatus := none
  links : Option Links := none
  children : Option (List (String × Node)) := none
  units : Option (List (String × Node)) := none

/-- Nodes under their local ids, in the order of the outline. -/
abbrev ChildMap := Keyed Node

namespace Node

/-- A block without status and without anything below it. -/
def ofBlock (usageKey category : String) : Node :=
  { usageKey, category, data := .object [] }

/-- The level of the outline to which the node belongs. -/
def kind (n : Node) : NodeKind :=
  .ofCategory n.category

/-- The name that the payload gives the block. -/
def displayName (n : Node) : Option String :=
  (n.data.member? "display_name").bind Json.string?

/-- Whether the block is approved. -/
def isApproved (n : Node) : Bool :=
  n.status.any (·.approved)

/-- Whether the block can be approved now. -/
def isEligible (n : Node) : Bool :=
  n.status.any Status.isEligible

/-- Whether a version of the block is previewed. -/
def isPreviewing (n : Node) : Bool :=
  n.previous.isSome

/-- The nodes directly below: the children, or the content where there are no children. -/
def nodesBelow (n : Node) : Option ChildMap :=
  n.children <|> n.units

/-- Whether the node has no place for anything below it. -/
def isLeaf (n : Node) : Bool :=
  n.children.isNone && n.units.isNone

end Node

/-! ## Equality up to the order of keys -/

/-- Whether two optional payloads are equal when the order of members does not count. -/
def samePayload : Option Json → Option Json → Bool
  | none, none => true
  | some a, some b => a.same b
  | _, _ => false

namespace Node

mutual

/-- Whether two nodes are equal when neither the order of members in payloads nor the order of
the nodes below counts. -/
def same : Node → Node → Bool
  | ⟨key, category, data, previous, status, versions, links, children, units⟩, m =>
    key == m.usageKey && category == m.category && data.same m.data
      && samePayload previous m.previous && status == m.status && versions == m.versionStatus
      && links == m.links && sameMaps children m.children && sameMaps units m.units

/-- Whether two optional child maps are equal in that sense. -/
def sameMaps : Option (List (String × Node)) → Option (List (String × Node)) → Bool
  | none, none => true
  | some ms, some ns => ms.length == ns.length && sameEntries ms ns
  | _, _ => false

/-- Whether every entry on the left has an equal node under its id on the right. -/
def sameEntries : List (String × Node) → List (String × Node) → Bool
  | [], _ => true
  | (id, n) :: rest, ns =>
    (match Keyed.get? id ns with
      | some m => n.same m
      | none => false) && sameEntries rest ns

end

end Node

end CourseReview
