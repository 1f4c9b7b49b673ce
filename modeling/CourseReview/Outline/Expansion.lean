import CourseReview.Outline.Path

/-!
# What is fetched and what is shown

Each node of an outline has two states that do not depend on each other: whether its content has
been fetched, and whether it is shown expanded.  Only the first expansion of a unit without content
asks for a fetch; collapsing and expanding it again afterwards is a matter of the view alone.
-/

namespace CourseReview

/-- How far the fetching of a node's content has come. -/
inductive LoadState where
  | notFetched
  | fetching
  | fetched
deriving DecidableEq, Repr

/-- Whether what is below a node is shown. -/
inductive Visibility where
  | collapsed
  | expanded
deriving DecidableEq, Repr

namespace Visibility

/-- The other one. -/
def toggled : Visibility → Visibility
  | .collapsed => .expanded
  | .expanded => .collapsed

/-- Whether what is below is shown. -/
def isExpanded (v : Visibility) : Bool :=
  v == .expanded

end Visibility

/-- The states of one node; without a visibility of its own it follows the whole outline. -/
structure NodeView where
  load : LoadState := .notFetched
  visibility : Option Visibility := none
deriving DecidableEq, Repr

/-- The states of all nodes, and how often the whole outline was toggled. -/
structure Expansion where
  view : NodePath → NodeView := fun _ => {}
  globalToggles : Nat := 0

namespace Expansion

/-- The visibility of a node that has none of its own: expanded after an odd number of toggles of
the whole outline. -/
def globalVisibility (e : Expansion) : Visibility :=
  if e.globalToggles % 2 = 1 then .expanded else .collapsed

/-- The visibility of the node at a path. -/
def visibility (e : Expansion) (p : NodePath) : Visibility :=
  (e.view p).visibility.getD e.globalVisibility

/-- Whether the node at a path is shown expanded. -/
def isExpanded (e : Expansion) (p : NodePath) : Bool :=
  (e.visibility p).isExpanded

/-- The load state of the node at a path. -/
def loadState (e : Expansion) (p : NodePath) : LoadState :=
  (e.view p).load

/-- Other states for the node at a path. -/
def setView (e : Expansion) (p : NodePath) (v : NodeView) : Expansion :=
  { e with view := fun q => if q = p then v else e.view q }

/-- Expands or collapses a node.  The answer is whether its content has to be fetched now: it needs
fetching, is expanded by this step and is not on its way already. -/
def toggle (e : Expansion) (p : NodePath) (needsFetch : Bool) : Bool × Expansion :=
  let next := (e.visibility p).toggled
  let fetch := next.isExpanded && needsFetch && e.loadState p == .notFetched
  let load := if fetch then .fetching else e.loadState p
  (fetch, e.setView p { load, visibility := some next })

/-- Marks the content of a node as being fetched, unless it is or has been. -/
def beginFetch (e : Expansion) (p : NodePath) : Bool × Expansion :=
  if e.loadState p = .notFetched then (true, e.setView p { e.view p with load := .fetching })
  else (false, e)

/-- Records how a fetch ended. -/
def finishFetch (e : Expansion) (p : NodePath) (success : Bool) : Expansion :=
  e.setView p { e.view p with load := if success then .fetched else .notFetched }

/-- Toggles the whole outline, which takes every node's own visibility away. -/
def toggleAll (e : Expansion) : Expansion :=
  { view := fun q => { e.view q with visibility := none }, globalToggles := e.globalToggles + 1 }

@[simp] theorem view_setView_self (e : Expansion) (p : NodePath) (v : NodeView) :
    (e.setView p v).view p = v := by
  simp [setView]

theorem view_setView_of_ne {p q : NodePath} (h : q ≠ p) (e : Expansion) (v : NodeView) :
    (e.setView p v).view q = e.view q := by
  simp [setView, h]

end Expansion

end CourseReview
