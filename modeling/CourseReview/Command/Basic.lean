import CourseReview.Outline.Listing
import CourseReview.Sync.Link

/-!
# Commands

A command is a script: it prints, makes one call after another on a synchronizer, and goes on as
the answers and the session say.  A script is run over a link to the server; it stops where a reply
does not come.
-/

namespace CourseReview

/-- What the program can be told to do. -/
inductive Command where
  | courses
  | outline (rerunId : String) (units : Bool)
  | approve (rerunId : String) (path : NodePath)
  | apply (rerunId : String) (path : NodePath) (version : VersionId)
  | validate
deriving DecidableEq, Repr

/-- The course of a command: it ends with an outcome, or makes a call and goes on from its outcome
and the session after it.  Before either it prints. -/
inductive Script where
  | finish (printed : Report) (result : Outcome Unit)
  | call (printed : Report) (c : Call) (next : Outcome Answer → Session → Script)

namespace Script

/-- Makes a call and goes on from its answer; a failed call ends the script. -/
def ask (printed : Report) (c : Call) (next : Answer → Session → Script) : Script :=
  .call printed c fun result s =>
    match result with
    | .ok a => next a s
    | .error e => .finish [] (.error e)

/-- The end of a script that has succeeded. -/
def done (printed : Report) : Script :=
  .finish printed (.ok ())

end Script

/-! ## The commands -/

/-- A course as it is listed. -/
def courseLine (title id : String) (language : Option String) : String :=
  title ++ " (" ++ id ++ ") [" ++ language.getD "-" ++ "]"

/-- The base courses, each with its translations, as they are printed. -/
def CoursePairing.report (list : List CoursePairing) : Report :=
  Report.header "Course pairings"
    ++ list.flatMap (fun p =>
      Report.info (courseLine p.title p.id p.language)
        ++ p.reruns.values.flatMap fun r => Report.subItem 0 (courseLine r.title r.id r.language))
    ++ Report.summary "Pairings"
      [("Base courses", toString list.length),
        ("Reruns", toString (list.flatMap (·.reruns)).length)]

/-- The unit that has to be fetched before the node at a path can be addressed: content is below
its unit. -/
def NodePath.unitOf? (p : NodePath) : Option NodePath :=
  p.parent?.filter (·.isUnit)

namespace Command

/-- Lists the base courses. -/
def coursesScript : Script :=
  .ask [] .pairings fun
    | .pairings list, _ => .done (CoursePairing.report list)
    | _, _ => .done []

/-- The end of printing an outline. -/
def printOutline (s : Session) : Script :=
  match s.outline with
  | some o => .done o.rerun.report
  | none => .done []

/-- Prints the outline of a translated course, with the content of every unit if that is asked
for. -/
def outlineScript (rerunId : String) (units : Bool) : Script :=
  let total := if units then 2 else 1
  .ask (Report.step 1 total s!"Loading outline for {rerunId}") (.load rerunId) fun _ s =>
    if units then
      .ask (Report.step 2 total "Loading unit content") (.loadUnits .courseInfo) fun _ s =>
        printOutline s
    else printOutline s

/-- The end of approving: that there was nothing to approve is only a warning. -/
def approveResult (path : NodePath) : Outcome Answer → Script
  | .ok (.approved (some count)) =>
    .done (Report.info s!"Approved {count} blocks under {path.text}")
  | .ok _ => .done []
  | .error (.nothingToApprove under) =>
    .done (Report.warn (ReviewError.nothingToApprove under).message)
  | .error e => .finish [] (.error e)

/-- Approves everything eligible at or below a path, once the content of the units there has been
fetched. -/
def approveScript (rerunId : String) (path : NodePath) : Script :=
  let approve := Script.call [] (.approve path) fun result _ => approveResult path result
  .ask [] (.load rerunId) fun _ _ =>
    if path.isCourseInfo then approve
    else .ask [] (.loadUnits (path.unitOf?.getD path)) fun _ _ => approve

/-- Selects a version of the node at a path and applies it. -/
def selectAndApply (path : NodePath) (version : VersionId) : Script :=
  .ask [] (.select path version) fun _ _ =>
    .ask [] (.apply path) fun
      | .applied true, _ => .done (Report.info s!"Applied version {version} to {path.text}")
      | _, _ => .done []

/-- Applies a version to the node at a path, once the content of its unit has been fetched. -/
def applyScript (rerunId : String) (path : NodePath) (version : VersionId) : Script :=
  .ask [] (.load rerunId) fun _ _ =>
    match path.unitOf? with
    | some unit => .ask [] (.loadUnits unit) fun _ _ => selectAndApply path version
    | none => selectAndApply path version

/-- The script of a command. -/
def script (settings : Settings) : Command → Script
  | .courses => coursesScript
  | .outline rerunId units => outlineScript rerunId units
  | .approve rerunId path => approveScript rerunId path
  | .apply rerunId path version => applyScript rerunId path version
  | .validate => .finish [] settings.validate

end Command

/-! ## Running a script -/

/-- What running a command comes to: what it printed, the requests it sent, and its outcome, which
is missing when a reply did not come. -/
structure CommandRun where
  printed : Report := []
  sent : List HttpRequest := []
  result : Option (Outcome Unit)

namespace CommandRun

/-- The run after something more was printed and sent before it. -/
def after (printed : Report) (sent : List HttpRequest) (r : CommandRun) : CommandRun :=
  { r with printed := printed ++ r.printed, sent := sent ++ r.sent }

/-- The failure in which the run ended. -/
def failure? (r : CommandRun) : Option ReviewError :=
  match r.result with
  | some (.error e) => some e
  | _ => none

/-- The exit code of the program after the run. -/
def exitCode (r : CommandRun) : Nat :=
  match r.result with
  | some (.ok ()) => 0
  | _ => 1

end CommandRun

variable {σ : Type}

/-- Runs a script over a link; one call is finished before the next is made.  A script that makes a
call needs a synchronizer, and ends with the failure of setting it up before anything is printed. -/
def Script.run (link : Link σ) : Script → Outcome Synchronizer → σ → CommandRun
  | .finish printed result, _, _ => { printed, result := some result }
  | .call _ _ _, .error e, _ => { result := some (.error e) }
  | .call printed c next, .ok y, state =>
    let (out, y, state) := Synchronizer.drive link (y.start 0 c) state
    let sent := out.sent.map (·.2)
    match out.finished with
    | [] => { printed, sent, result := none }
    | (_, result) :: _ =>
      CommandRun.after printed sent ((next result y.session).run link (.ok y) state)

/-- Runs a command over a link. -/
def Command.run (link : Link σ) (state : σ) (settings : Settings) (c : Command) : CommandRun :=
  (c.script settings).run link (Synchronizer.ofSettings settings) state

end CourseReview
