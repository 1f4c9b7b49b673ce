import CourseReview.Outline.Path

/-!
# Revisions

An update never alters a node in place: it hands the very node on, or puts a new one where it
stood.  A `Revision` is what an update makes of one node, and says of every node below whether it
was handed on too, so that a reader of the outline can tell which parts of it have changed.
`Tree.revise` updates the node at a path: new are the node there and its ancestors up to the
section, and nothing at all when the update hands the node on.
-/

namespace CourseReview

/-- What an update makes of a node: the node itself, or a new node.  The marks of a new node say
what became of the entries of its `children` and `units`, in their order; entries beyond the marks
were handed on. -/
inductive Revision where
  | kept
  | rebuilt (node : Node) (children units : List Revision)

namespace Revision

/-- The node that stands in the place afterwards. -/
def node (old : Node) : Revision → Node
  | .kept => old
  | .rebuilt n _ _ => n

/-- Whether the node was handed on. -/
def isKept : Revision → Bool
  | .kept => true
  | .rebuilt .. => false

/-- A new node over the same nodes below. -/
def renewed (n : Node) : Revision :=
  .rebuilt n [] []

@[simp] theorem node_kept (old : Node) : kept.node old = old := rfl

@[simp] theorem node_renewed (old n : Node) : (renewed n).node old = n := rfl

end Revision

mutual

/-- A node that is new with everything below it. -/
def Node.allNew : Node → Revision
  | ⟨key, category, data, previous, status, versions, links, children, units⟩ =>
    .rebuilt ⟨key, category, data, previous, status, versions, links, children, units⟩
      (allNewMap children) (allNewMap units)

/-- The marks of a child map whose nodes are all new. -/
def allNewMap : Option (List (String × Node)) → List Revision
  | none => []
  | some entries => allNewEntries entries

/-- The marks of entries whose nodes are all new. -/
def allNewEntries : List (String × Node) → List Revision
  | [] => []
  | (_, n) :: rest => n.allNew :: allNewEntries rest

end

namespace ChildMap

/-- The marks of a map of which one entry was revised: the entry's own after one of `kept` for
each entry before it. -/
def marks (id : String) (r : Revision) : ChildMap → List Revision
  | [] => []
  | (k, _) :: rest => if k = id then [r] else .kept :: marks id r rest

/-- The map after its entries were revised. -/
def revised : ChildMap → List Revision → ChildMap
  | (id, n) :: rest, r :: rs => (id, r.node n) :: revised rest rs
  | m, _ => m

end ChildMap

/-- The new node that has another map in the place, with the marks of that map. -/
def ChildSlot.rebuild (slot : ChildSlot) (n : Node) (m : ChildMap) (marks : List Revision) :
    Revision :=
  match slot with
  | .children => .rebuilt (slot.set n m) marks []
  | .units => .rebuilt (slot.set n m) [] marks

/-- Updates the node that ids lead to from a node whose path has the given length.  Every node on
the way is new, unless the node at the end was handed on. -/
def Node.revise (f : Node → Revision) : (depth : Nat) → List String → Node → Option Revision
  | _, [], n => some (f n)
  | depth, id :: rest, n =>
    let slot := ChildSlot.atDepth depth
    match slot.get n with
    | none => none
    | some m =>
      match Keyed.get? id m with
      | none => none
      | some c =>
        match Node.revise f (depth + 1) rest c with
        | none => none
        | some .kept => some .kept
        | some (.rebuilt c' cs us) =>
          some (slot.rebuild n (Keyed.put id c' m) (ChildMap.marks id (.rebuilt c' cs us) m))

/-- What an update makes of an outline: the outline afterwards, with the marks of the course's own
node and of the sections. -/
structure TreeRevision where
  tree : Tree
  courseInfo : Revision := .kept
  sections : List Revision := []

namespace Tree

/-- Updates the node at a path. -/
def revise (t : Tree) (p : NodePath) (f : Node → Revision) : Outcome TreeRevision :=
  match p with
  | .courseInfo =>
    let r := f t.courseInfo
    .ok { tree := { t with courseInfo := r.node t.courseInfo }, courseInfo := r }
  | .outline [] => .error (.invalidPath .emptyPath)
  | .outline (id :: rest) =>
    match Keyed.get? id t.sections with
    | none => .error (.nodeNotFound p.text)
    | some s =>
      match s.revise f 1 rest with
      | none => .error (.nodeNotFound p.text)
      | some .kept => .ok { tree := t }
      | some (.rebuilt s' cs us) =>
        .ok
          { tree := { t with sections := Keyed.put id s' t.sections }
            sections := ChildMap.marks id (.rebuilt s' cs us) t.sections }

/-- Puts a new node, made from the old one, at a path. -/
def replaceAt (t : Tree) (p : NodePath) (f : Node → Node) : Outcome Tree :=
  (t.revise p fun n => .renewed (f n)).map (·.tree)

end Tree

/-! ## Where an outline has changed -/

/-- A place of a node in an outline, with the slots that lead to it from the course's own node or
from a section. -/
inductive Place where
  | underCourse (steps : List (ChildSlot × String))
  | underSection (sectionId : String) (steps : List (ChildSlot × String))
deriving DecidableEq, Repr

/-- The place below under that slot and id. -/
def Place.step (slot : ChildSlot) (id : String) : Place → Place
  | .underCourse steps => .underCourse (steps ++ [(slot, id)])
  | .underSection sectionId steps => .underSection sectionId (steps ++ [(slot, id)])

/-- The ids of a slot's entries. -/
def ChildSlot.ids (slot : ChildSlot) (n : Node) : List String :=
  (slot.get n).elim [] Keyed.keys

mutual

/-- The places of the new nodes, those below a node before the node itself. -/
def Revision.places (place : Place) : Revision → List Place
  | .kept => []
  | .rebuilt n cs us =>
    placesBelow place .children (ChildSlot.children.ids n) cs
      ++ placesBelow place .units (ChildSlot.units.ids n) us
      ++ [place]

/-- The places of the new nodes among the entries of a slot. -/
def placesBelow (place : Place) (slot : ChildSlot) : List String → List Revision → List Place
  | id :: ids, r :: rs => r.places (place.step slot id) ++ placesBelow place slot ids rs
  | [], _ => []
  | _ :: _, [] => []

end

namespace TreeRevision

/-- The places of the new nodes of an outline: the course's own node, then section by section. -/
def places (r : TreeRevision) : List Place :=
  let sections := (Keyed.keys r.tree.sections).zip r.sections
  r.courseInfo.places (.underCourse [])
    ++ sections.flatMap fun (id, s) => s.places (.underSection id [])

end TreeRevision

end CourseReview
