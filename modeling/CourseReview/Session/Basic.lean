import CourseReview.Outline.Expansion
import CourseReview.Outline.Preview
import CourseReview.Outline.Units

/-!
# Review sessions

A session holds the outlines of one pairing of courses and all that a reviewer has opened, selected
and set going on them.  Whatever needs the server is done in two steps.  Beginning it checks the
request, marks the activity busy and hands out a ticket; finishing it takes the ticket back with
the server's reply and lets the reply take effect.

Loading another pairing starts a new generation.  A ticket carries the generation it was handed out
in, and the reply to a ticket of an earlier generation is refused without any effect.
-/

namespace CourseReview

/-- What can be under way for one node. -/
inductive Activity where
  | expand
  | selectVersion
  | applyVersion
  | approve
deriving DecidableEq, Repr

/-- The name of the activity in messages. -/
def Activity.name : Activity → String
  | .expand => "expand"
  | .selectVersion => "select version"
  | .applyVersion => "apply version"
  | .approve => "approve"

/-- The activity for the node at a path, as messages name it. -/
def Activity.describe (a : Activity) (p : NodePath) : String :=
  s!"{a.name} for {p.text}"

/-- The name, in messages, of loading a pairing. -/
def loadName : String := "load"

/-! ## Tickets -/

/-- The right to finish the loading of a pairing. -/
structure LoadTicket where
  generation : Nat
  rerunId : String
deriving DecidableEq, Repr

/-- The right to finish an activity for the node at a path, with what is asked of the server. -/
structure Ticket (ρ : Type) where
  generation : Nat
  path : NodePath
  request : ρ
deriving DecidableEq, Repr

/-- Asks for the content of a unit. -/
structure UnitFetch where
  usageKey : String
deriving DecidableEq, Repr

/-- Asks for the payload of a version. -/
structure VersionFetch where
  version : VersionId
deriving DecidableEq, Repr

/-- Asks the server to apply a version to a block. -/
structure VersionApply where
  usageKey : String
  version : VersionId
deriving DecidableEq, Repr

/-- Asks the server to approve blocks. -/
structure ApprovalRequest where
  blockIds : List String
deriving DecidableEq, Repr

/-! ## Notifications -/

/-- How much a notification matters. -/
inductive Severity where
  | info
  | error
deriving DecidableEq, Repr

/-- A message for the reviewer. -/
structure Notification where
  severity : Severity
  message : String
deriving DecidableEq, Repr

/-! ## The session -/

/-- The state of a review. -/
structure Session where
  generation : Nat := 0
  rerunId : Option String := none
  outline : Option Outline := none
  expansion : Expansion := {}
  selection : NodePath → Option Selection := fun _ => none
  loading : Bool := false
  busy : Activity → NodePath → Bool := fun _ _ => false
  notifications : List Notification := []

/-- What a step answers, and the session after it. -/
abbrev Step (α : Type) := Outcome α × Session

namespace Session

/-- The session with the activity marked busy or idle for the node at a path. -/
def setBusy (s : Session) (a : Activity) (p : NodePath) (isBusy : Bool) : Session :=
  { s with busy := fun b q => if b = a ∧ q = p then isBusy else s.busy b q }

/-- The session with a selection for the node at a path. -/
def select (s : Session) (p : NodePath) (selected : Selection) : Session :=
  { s with selection := fun q => if q = p then some selected else s.selection q }

/-- The session with one more notification. -/
def notify (s : Session) (severity : Severity) (message : String) : Session :=
  { s with notifications := s.notifications ++ [⟨severity, message⟩] }

/-- Takes the notifications out of the session. -/
def takeNotifications (s : Session) : List Notification × Session :=
  (s.notifications, { s with notifications := [] })

/-- Hands out a ticket for the node at a path and marks the activity busy. -/
def issue {ρ : Type} (s : Session) (a : Activity) (p : NodePath) (request : ρ) :
    Ticket ρ × Session :=
  ({ generation := s.generation, path := p, request }, s.setBusy a p true)

/-- Takes a ticket back: one of this generation leaves its activity idle, any other is refused. -/
def settle {ρ : Type} (s : Session) (a : Activity) (t : Ticket ρ) : Outcome Session :=
  if t.generation = s.generation then .ok (s.setBusy a t.path false)
  else .error (.staleResponse t.generation s.generation)

/-- Refuses an activity that is under way for the node at a path. -/
def ensureIdle (s : Session) (a : Activity) (p : NodePath) : Outcome Unit :=
  if s.busy a p then .error (.busy a.name p.text) else .ok ()

/-- Tells the reviewer of a failed exchange with the server; other failures are not announced. -/
def announce (s : Session) (what : String) (e : ReviewError) : Session :=
  if e.isTransport then s.notify .error s!"Could not {what}: {e.message}" else s

/-- The outlines, which have to be loaded. -/
def requireOutline (s : Session) : Outcome Outline :=
  match s.outline with
  | some o => .ok o
  | none => .error .notLoaded

/-- The node of the translated course at a path. -/
def requireNode (s : Session) (p : NodePath) : Outcome Node :=
  match s.requireOutline with
  | .error e => .error e
  | .ok o => p.require o.rerun

/-- The session with another outline of the translated course. -/
def setRerun (s : Session) (o : Outline) (t : Tree) : Session :=
  { s with outline := some { o with rerun := t } }

/-- Puts a new node, made from the old one, at a path of the translated course. -/
def updateRerun (s : Session) (p : NodePath) (f : Node → Node) : Outcome Session :=
  match s.requireOutline with
  | .error e => .error e
  | .ok o =>
    match o.rerun.replaceAt p f with
    | .error e => .error e
    | .ok t => .ok (s.setRerun o t)

end Session

end CourseReview
