import CourseReview.Outline.Preview
import CourseReview.Outline.Tree
import CourseReview.Report

/-!
# The printed outline

An outline is printed as a title for the course and then one line for each node below it, indented
by its depth, and a summary of the counts.  A line shows whether the node is approved or can be,
its id, its name, its level, the version applied and how many other versions there are.
-/

namespace CourseReview

/-- A node as it is listed: its depth below the sections, and its id. -/
structure ListedNode where
  depth : Nat
  id : String
  node : Node

namespace Node

mutual

/-- The node under that id and everything below it, each node before what is below it. -/
def listing (depth : Nat) (id : String) : Node → List ListedNode
  | ⟨key, category, data, previous, status, versions, links, children, units⟩ =>
    ⟨depth, id, ⟨key, category, data, previous, status, versions, links, children, units⟩⟩ ::
      if children.isSome then listingMap (depth + 1) children else listingMap (depth + 1) units

/-- The nodes of an optional child map. -/
def listingMap (depth : Nat) : Option (List (String × Node)) → List ListedNode
  | none => []
  | some entries => listingEntries depth entries

/-- The nodes of the entries of a child map. -/
def listingEntries (depth : Nat) : List (String × Node) → List ListedNode
  | [] => []
  | (id, n) :: rest => n.listing depth id ++ listingEntries depth rest

end

/-- The mark of a node: approved, to be approved, or neither. -/
def marker (n : Node) : String :=
  if n.isApproved then "[x]" else if n.isEligible then "[ ]" else "[-]"

/-- The version that is applied to the node, as its line shows it. -/
def appliedText (n : Node) : String :=
  match n.versionStatus with
  | some vs =>
    match vs.applied, vs.appliedVersion with
    | true, some version => s!" v{version}"
    | _, _ => ""
  | none => ""

/-- How many versions are on offer besides the one applied, as the node's line shows it. -/
def otherVersionsText (n : Node) : String :=
  let count := n.versionChoices.other.length
  if count = 0 then "" else s!" (+{count} versions)"

/-- The line of the node under an id. -/
def line (id : String) (n : Node) : String :=
  s!"{n.marker} {id} {n.displayName.getD n.usageKey} ({n.kind.name}){n.appliedText}"
    ++ n.otherVersionsText

end Node

namespace Tree

/-- The nodes below the course's own, as they are listed. -/
def listing (t : Tree) : List ListedNode :=
  Node.listingEntries 0 t.sections

/-- The id under which the course's own node is shown. -/
def courseId : String := "course"

/-- The printed outline. -/
def report (t : Tree) : Report :=
  let stats := t.stats
  Report.header (t.courseInfo.line courseId)
    ++ t.listing.flatMap (fun l => Report.subItem l.depth (l.node.line l.id))
    ++ Report.summary "Outline"
      [("Sections", toString stats.sections), ("Subsections", toString stats.subsections),
        ("Units", s!"{stats.units} ({stats.unitsLoaded} loaded)"),
        ("Contents", toString stats.contents), ("Approved", toString stats.approved),
        ("Eligible", toString stats.eligible)]

end Tree

end CourseReview
