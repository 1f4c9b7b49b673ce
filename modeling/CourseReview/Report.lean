/-!
# The console report

What a command tells its user, line by line.  Each message has a level, and messages below the
level that is set are left out.  Warnings and errors go to the error output, all else to the
standard output.
-/

namespace CourseReview

/-- How much a message matters. -/
inductive ReportLevel where
  | debug
  | info
  | warn
  | error
deriving DecidableEq, Repr

namespace ReportLevel

/-- The level as messages show it. -/
def name : ReportLevel → String
  | .debug => "DEBUG"
  | .info => "INFO"
  | .warn => "WARN"
  | .error => "ERROR"

/-- The place of the level in the order of importance. -/
def rank : ReportLevel → Nat
  | .debug => 0
  | .info => 1
  | .warn => 2
  | .error => 3

/-- The level of that name in either case; an unknown name stands for the middle one. -/
def ofName (name : String) : ReportLevel :=
  match name.toLower with
  | "debug" => .debug
  | "trace" => .debug
  | "info" => .info
  | "warn" => .warn
  | "error" => .error
  | _ => .info

/-- Whether messages of a level are shown when this one is set. -/
def shows (set level : ReportLevel) : Bool :=
  set.rank ≤ level.rank

/-- The level that is set: the first of those asked for, and otherwise the middle one. -/
def ofRequests : List String → ReportLevel
  | [] => .info
  | name :: _ => .ofName name

end ReportLevel

/-- One line of the report: a message, or a blank line before a summary. -/
inductive ReportLine where
  | blank
  | message (level : ReportLevel) (text : String)
deriving DecidableEq, Repr

namespace ReportLine

/-- The level of the line. -/
def level : ReportLine → ReportLevel
  | .blank => .info
  | .message l _ => l

/-- The line as it is printed. -/
def text : ReportLine → String
  | .blank => ""
  | .message l s => s!"[{l.name}] {s}"

/-- Whether the line goes to the error output. -/
def isError (line : ReportLine) : Bool :=
  line.level == .warn || line.level == .error

end ReportLine

/-- A report. -/
abbrev Report := List ReportLine

namespace Report

/-! ## Making a report -/

/-- A piece of information. -/
def info (text : String) : Report :=
  [.message .info text]

/-- A warning. -/
def warn (text : String) : Report :=
  [.message .warn text]

/-- An error. -/
def error (text : String) : Report :=
  [.message .error text]

/-- One of several steps. -/
def step (number total : Nat) (text : String) : Report :=
  info s!"[STEP {number}/{total}] {text}"

/-- The line above and below a title. -/
def border : String :=
  String.ofList (List.replicate 60 '═')

/-- A title between two lines. -/
def header (title : String) : Report :=
  info border ++ info s!"  {title}" ++ info border

/-- An item, indented by four spaces more than its depth asks for. -/
def subItem (depth : Nat) (text : String) : Report :=
  info (String.ofList (List.replicate (4 * (depth + 1)) ' ') ++ text)

/-- A summary: a blank line, a title, and a line for each item. -/
def summary (title : String) (items : List (String × String)) : Report :=
  .blank :: info s!"[SUMMARY] {title}"
    ++ items.flatMap fun (key, value) => info s!"    {key}: {value}"

/-! ## Printing a report -/

/-- The lines that are shown at a level. -/
def shown (set : ReportLevel) (r : Report) : Report :=
  r.filter fun line => set.shows line.level

/-- What is printed on the standard output at a level. -/
def output (set : ReportLevel) (r : Report) : List String :=
  ((r.shown set).filter (!·.isError)).map (·.text)

/-- What is printed on the error output at a level. -/
def errorOutput (set : ReportLevel) (r : Report) : List String :=
  ((r.shown set).filter (·.isError)).map (·.text)

end Report

end CourseReview
