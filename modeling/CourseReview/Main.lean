import CourseReview.Command.Arguments
import CourseReview.Sync.Recorded

/-!
# The program

Runs the command that the command line asks for.  The replies of the server are read, as a list of
recorded routes, from the standard input; when there is none, the server cannot be reached.
-/

namespace CourseReview.Program

/-- How the program is used. -/
def usage : List String :=
  ["Usage: outline-sync [-c FILE] [-v] COMMAND",
    "",
    "  courses                            list base courses and their translations",
    "  outline RERUN [--units]            print the outline of a translated course",
    "  approve RERUN PATH                 approve everything eligible at or below a node",
    "  apply RERUN PATH --version NUMBER  apply a version to a block",
    "  validate                           check the settings"]

/-- The text of a file, if it can be read. -/
def readFile? (path : String) : IO (Option String) := do
  try
    return some (← IO.FS.readFile path)
  catch _ => return none

/-- The text on the standard input. -/
partial def readInput (stream : IO.FS.Stream) (text : String) : IO String := do
  let line ← stream.getLine
  if line.isEmpty then return text else readInput stream (text ++ line)

/-- The recorded server that a text describes. -/
def recordedServer? (text : String) : Option RecordedServer :=
  (Json.parse? text).bind fun j => (RecordedServer.decode j).toOption

/-- Runs a command with its settings against the server recorded in a text. -/
def runCommand (settings : Settings) (recorded : String) (c : Command) : CommandRun :=
  match recordedServer? recorded with
  | some server => c.run RecordedServer.link server settings
  | none => c.run Link.unreachable () settings

/-- Runs the command of an invocation and prints its report. -/
def runInvocation (i : Invocation) : IO UInt32 := do
  let settings := Settings.loadOrDefault (← readFile? i.settingsFile)
  let run := runCommand settings (← readInput (← IO.getStdin) "") i.command
  for line in run.printed.shown (i.reportLevel settings) do
    if line.isError then IO.eprintln line.text else IO.println line.text
  if let some e := run.failure? then IO.eprintln s!"Error: {e.message}"
  return run.exitCode.toUInt32

/-- Prints why there is no command to run. -/
def explain (reason : NoCommand) : IO UInt32 := do
  reason.output.forM IO.println
  match reason with
  | .version => pure ()
  | .help => usage.forM IO.println
  | .misused => usage.forM IO.eprintln
  return reason.exitCode.toUInt32

/-- Reads a command line and does what it asks for. -/
def run (arguments : List String) : IO UInt32 :=
  match Invocation.read arguments with
  | .ok i => runInvocation i
  | .error reason => explain reason

end CourseReview.Program

/-- The entry of the program. -/
def main (arguments : List String) : IO UInt32 :=
  CourseReview.Program.run arguments
