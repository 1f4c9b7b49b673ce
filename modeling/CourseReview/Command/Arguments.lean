import CourseReview.Command.Basic

/-!
# Command lines

The arguments of the program: options for all commands, the name of a command, and the options and
operands of that command.

An option is written `--name`, or `-n` where it has a letter; letters can be written together.  An
option with a value takes it after an equals sign, after its letter, or from the next argument,
which then must not look like an option.  Each option is given once at most.  After `--` every
argument is an operand.  Arguments are read from left to right, and the first that is wrong, or that
asks for help or for the version, settles the matter.
-/

namespace CourseReview

/-! ## Options -/

/-- An option: its name, its letter, and, if it takes a value, which texts can be its value. -/
structure OptionForm where
  name : String
  letter : Option Char := none
  value : Option (String → Bool) := none

/-- One thing that arguments say: an option with its value, an operand with the arguments after it,
the separator before operands, or something that cannot be understood. -/
inductive ArgumentItem where
  | option (form : OptionForm) (value : String)
  | operand (text : String) (rest : List String)
  | separator
  | unknown

namespace ArgumentItem

/-- An option that is written without a value of its own: what is understood of it, and the option
if it has to take its value from the next argument. -/
abbrev Written := List ArgumentItem × Option OptionForm

/-- The option of that name, written with a value after an equals sign or without. -/
def ofName (forms : List OptionForm) (name : String) (attached : Option String) : Written :=
  match forms.find? (·.name == name) with
  | none => ([.unknown], none)
  | some form =>
    match form.value, attached with
    | none, none => ([.option form ""], none)
    | none, some _ => ([.unknown], none)
    | some _, some value => ([.option form value], none)
    | some _, none => ([], some form)

/-- The options of letters written together; the letters after one that takes a value are that
value, an equals sign before them aside. -/
def ofLetters (forms : List OptionForm) : List Char → Written
  | [] => ([], none)
  | c :: rest =>
    match forms.find? (·.letter == some c) with
    | none => ([.unknown], none)
    | some form =>
      match form.value with
      | none =>
        let (items, open?) := ofLetters forms rest
        (.option form "" :: items, open?)
      | some _ =>
        match rest with
        | [] => ([], some form)
        | '=' :: value => ([.option form (String.ofList value)], none)
        | value => ([.option form (String.ofList value)], none)

/-- Whether an argument is written like an option. -/
def looksLikeOption (argument : String) : Bool :=
  match argument.toList with
  | '-' :: _ :: _ => true
  | _ => false

/-- What one argument says that is written like an option. -/
def ofArgument (forms : List OptionForm) (argument : String) : Written :=
  match argument.toList with
  | '-' :: '-' :: cs =>
    match cs.span (· != '=') with
    | (name, '=' :: value) => ofName forms (String.ofList name) (some (String.ofList value))
    | (name, _) => ofName forms (String.ofList name) none
  | '-' :: cs => ofLetters forms cs
  | _ => ([], none)

/-- The operands that arguments after the separator are. -/
def operands : List String → List ArgumentItem
  | [] => []
  | argument :: rest => .operand argument rest :: operands rest

/-- What the arguments say, in order. -/
def ofArguments (forms : List OptionForm) : List String → List ArgumentItem
  | [] => []
  | argument :: rest =>
    if argument = "--" then .separator :: operands rest
    else if !looksLikeOption argument then .operand argument rest :: ofArguments forms rest
    else
      match ofArgument forms argument with
      | (items, none) => items ++ ofArguments forms rest
      | (items, some form) =>
        match rest with
        | [] => items ++ [.unknown]
        | value :: rest =>
          if looksLikeOption value then items ++ [.unknown]
          else items ++ .option form value :: ofArguments forms rest

end ArgumentItem

/-! ## Reading a command line -/

/-- Why a command line leads to no command: help or the version is asked for, or it is wrong. -/
inductive NoCommand where
  | help
  | version
  | misused
deriving DecidableEq, Repr

namespace NoCommand

/-- What the program prints. -/
def output : NoCommand → List String
  | .version => ["outline-sync 0.1.0"]
  | _ => []

/-- The exit code of the program. -/
def exitCode : NoCommand → Nat
  | .misused => 2
  | _ => 0

end NoCommand

/-- The options and operands read so far. -/
structure Arguments where
  options : Keyed String := []
  operands : List String := []

namespace Arguments

/-- The option that asks for help. -/
def helpOption : OptionForm :=
  { name := "help", letter := some 'h' }

/-- Adds an option with its value, unless it is there already or that cannot be its value. -/
def addOption (a : Arguments) (form : OptionForm) (value : String) : Except NoCommand Arguments :=
  if form.name = helpOption.name then .error .help
  else if Keyed.has form.name a.options || !(form.value.all fun accepts => accepts value) then
    .error .misused
  else .ok { a with options := Keyed.put form.name value a.options }

end Arguments

/-- How a command is written: its name, its options, which texts its operands can be, and the
command that options and operands make up, if nothing is missing. -/
structure CommandForm where
  name : String
  options : List OptionForm := []
  operands : List (String → Bool) := []
  command : Arguments → Option Command

namespace CommandForm

/-- Reads the items after a command's name. -/
def readItems (form : CommandForm) : List ArgumentItem → Arguments → Except NoCommand Arguments
  | [], a => .ok a
  | .separator :: rest, a => form.readItems rest a
  | .unknown :: _, _ => .error .misused
  | .option o value :: rest, a =>
    match a.addOption o value with
    | .ok a => form.readItems rest a
    | .error e => .error e
  | .operand text _ :: rest, a =>
    match form.operands[a.operands.length]? with
    | some accepts =>
      if accepts text then form.readItems rest { a with operands := a.operands ++ [text] }
      else .error .misused
    | none => .error .misused

/-- Reads the arguments after a command's name. -/
def read (form : CommandForm) (arguments : List String) : Except NoCommand Command :=
  let items := ArgumentItem.ofArguments (Arguments.helpOption :: form.options) arguments
  match form.readItems items {} with
  | .error e => .error e
  | .ok a =>
    match form.command a with
    | some c => .ok c
    | none => .error .misused

end CommandForm

/-- A version number: digits with or without a sign, within 64 bits. -/
def VersionId.parse? (s : String) : Option VersionId :=
  let (negative, digits) := match s.toList with
    | '-' :: cs => (true, cs)
    | '+' :: cs => (false, cs)
    | cs => (false, cs)
  if digits.isEmpty || !digits.all Char.isDigit then none
  else
    let n : Int := Text.numberOf 10 digits
    let n := if negative then -n else n
    if Decimal.fitsInt64 n then some n else none

namespace Command

/-- Whether a text is a path. -/
def isPath (s : String) : Bool :=
  (NodePath.parse s).isOk

/-- Every text will do. -/
def anyText (_ : String) : Bool :=
  true

/-- How the commands are written. -/
def forms : List CommandForm :=
  [{ name := "courses", command := fun _ => some .courses },
    { name := "outline"
      options := [{ name := "units" }]
      operands := [anyText]
      command := fun a =>
        match a.operands with
        | [rerunId] => some (.outline rerunId (Keyed.has "units" a.options))
        | _ => none },
    { name := "approve"
      operands := [anyText, isPath]
      command := fun a =>
        match a.operands with
        | [rerunId, path] => (NodePath.parse path).toOption.map (.approve rerunId)
        | _ => none },
    { name := "apply"
      options := [{ name := "version", value := some fun s => (VersionId.parse? s).isSome }]
      operands := [anyText, isPath]
      command := fun a =>
        match a.operands with
        | [rerunId, path] => do
          let path ← (NodePath.parse path).toOption
          let version ← (Keyed.get? "version" a.options).bind VersionId.parse?
          some (.apply rerunId path version)
        | _ => none },
    { name := "validate", command := fun _ => some .validate }]

/-- The word that asks for help in the place of a command. -/
def helpWord : String := "help"

end Command

/-- What a command line asks for: a command, the file of its settings, and whether to report
everything. -/
structure Invocation where
  settingsFile : String := "outline-sync.toml"
  verbose : Bool := false
  command : Command
deriving DecidableEq, Repr

namespace Invocation

/-- The options before the name of a command. -/
def options : List OptionForm :=
  [Arguments.helpOption, { name := "version", letter := some 'V' },
    { name := "verbose", letter := some 'v' },
    { name := "config", letter := some 'c', value := some (!·.isEmpty) }]

/-- Reads the words after a request for help, which can name one command. -/
def readHelp : List String → NoCommand
  | [] => .help
  | [name] =>
    if name = Command.helpWord || Command.forms.any (·.name == name) then .help else .misused
  | _ => .misused

/-- Reads the name of a command and the arguments after it. -/
def readCommand (name : String) (rest : List String) : Except NoCommand Command :=
  if name = Command.helpWord then .error (readHelp rest)
  else
    match Command.forms.find? (·.name == name) with
    | some form => form.read rest
    | none => .error .misused

/-- Reads the items of a command line up to the name of a command. -/
def readItems : List ArgumentItem → Arguments → Except NoCommand Invocation
  | .option o value :: rest, a =>
    if o.name = "version" then .error .version
    else
      match a.addOption o value with
      | .ok a => readItems rest a
      | .error e => .error e
  | .operand name rest :: _, a =>
    match readCommand name rest with
    | .error e => .error e
    | .ok command =>
      let invocation : Invocation := { command, verbose := Keyed.has "verbose" a.options }
      match Keyed.get? "config" a.options with
      | some file => .ok { invocation with settingsFile := file }
      | none => .ok invocation
  | _, _ => .error .misused

/-- Reads a command line. -/
def read (arguments : List String) : Except NoCommand Invocation :=
  readItems (ArgumentItem.ofArguments options arguments) {}

/-- The level at which the invocation reports. -/
def reportLevel (i : Invocation) (settings : Settings) : ReportLevel :=
  if i.verbose then .debug else .ofName settings.logging.level

end Invocation

end CourseReview
