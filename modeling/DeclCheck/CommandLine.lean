/-
# DeclCheck.CommandLine — the command line, without its effects.

`Invocation.ofArguments` reads the arguments; `Invocation.execute` does the work, given the contents
of the files that it needs.

Options may stand before or after the other arguments; a value follows its option or is attached to
it, and a value that starts with a dash has to be attached.  An option is given at most once.  After
`--` everything is taken as it stands.
-/
import DeclCheck.Form.Declaration
import DeclCheck.Settings.Document
import DeclCheck.Verification

namespace DeclCheck

/-! ## Loading -/

/-- Why a check could not start. -/
inductive LoadError where
  | settingsUnreadable (path : String)
  | settingsInvalid (path : String) (cause : SettingsError)
  | inputUnreadable (path : String)
  | inputMalformed (path : String)
deriving DecidableEq

/-- What is printed when a file cannot be used.  What is wrong inside it is not told. -/
def LoadError.message : LoadError → String
  | .settingsUnreadable path => "Failed to load config '" ++ path ++ "'"
  | .settingsInvalid path _ => "Failed to load config '" ++ path ++ "'"
  | .inputUnreadable path => "Failed to read input '" ++ path ++ "'"
  | .inputMalformed path => "Failed to parse compilation input '" ++ path ++ "'"

/-- What a path leads to: the text of a file, or nothing that can be read. -/
abbrev Files := String → Option String

/-- The settings of a file, or the defaults if none is named. -/
def loadSettings (files : Files) : Option String → Except LoadError Settings
  | none => .ok {}
  | some path =>
    match files path with
    | none => .error (.settingsUnreadable path)
    | some text => (Settings.ofText text).mapError (.settingsInvalid path)

/-- The compilation that a file describes. -/
def loadCompilation (files : Files) (path : String) : Except LoadError Compilation :=
  match files path with
  | none => .error (.inputUnreadable path)
  | some text =>
    match Json.readText Compilation.ofJson? text with
    | some compilation => .ok compilation
    | none => .error (.inputMalformed path)

/-- Check the compilation of a file.  The settings are loaded first. -/
def checkFile (files : Files) (input : String) (config : Option String) :
    Except LoadError Run := do
  let settings ← loadSettings files config
  let compilation ← loadCompilation files input
  return compilation.verify settings.checks

/-! ## Commands -/

/-- What the program can be told to do. -/
inductive Command where
  | check (input : String) (config : Option String)
  | explain (code : String)
deriving DecidableEq

/-- What the program leaves behind. -/
structure Result where
  exitCode : UInt8
  output : String := ""
  /-- What it says on the error stream. -/
  complaint : String := ""

namespace Command

/-- The files that a command reads. -/
def paths : Command → List String
  | .check input config => config.toList ++ [input]
  | .explain _ => []

/-- Carry a command out.  A check fails if anything it reports is an error. -/
def execute (files : Files) : Command → Result
  | .check input config =>
    match checkFile files input config with
    | .error error => { exitCode := 1, complaint := error.message ++ "\n" }
    | .ok run =>
      if run.hasErrors then
        { exitCode := 1, output := run.report,
          complaint := "verification of '" ++ input ++ "' failed\n" }
      else { exitCode := 0, output := run.report }
  | .explain code =>
    match DeclCheck.explain code with
    | .ok text => { exitCode := 0, output := text }
    | .error unknown => { exitCode := 1, complaint := unknown.message ++ "\n" }

end Command

/-! ## Arguments -/

/-- What the arguments ask for. -/
inductive Invocation where
  | run (command : Command)
  | version
  | help
  /-- They do not fit the usage. -/
  | misuse
deriving DecidableEq

namespace Invocation

/-- The name that the program goes by in its own texts. -/
def programName : String := "verity"

/-- The answer to `--version`. -/
def versionText : String := programName ++ " 0.1.0\n"

/-- The answer to `--help`, and to arguments that say nothing useful. -/
def usageText : String :=
  "Usage: " ++ programName ++ " [--log-level LEVEL] check INPUT [-c|--config FILE]\n" ++
  "       " ++ programName ++ " [--log-level LEVEL] explain CODE\n" ++
  "       " ++ programName ++ " --version\n"

/-- Which command's arguments are being read. -/
inductive Mode where
  | check
  | explain
deriving DecidableEq

/-- The arguments read so far. -/
structure Draft where
  positional : Option String := none
  config : Option String := none
  logLevel : Option String := none

/-- The options that take a value. -/
inductive ValueOption where
  | config
  | logLevel
deriving DecidableEq

/-- An argument by its look. -/
inductive Shape where
  /-- `--`, after which nothing is an option. -/
  | escape
  | help
  | version
  /-- An option that takes a value, with the value attached to it. -/
  | valueOption (option : ValueOption) (attached : Option String)
  /-- Looks like an option, but there is none such. -/
  | unknown
  | plain
deriving DecidableEq

/-- Split a long option at its first equals sign. -/
def splitValue (text : List Char) : String × Option String :=
  let name := String.ofList (text.takeWhile (· ≠ '='))
  match text.dropWhile (· ≠ '=') with
  | [] => (name, none)
  | _ :: value => (name, some (String.ofList value))

/-- The value attached to a short option, with or without an equals sign. -/
def attachedValue : List Char → Option String
  | [] => none
  | '=' :: value => some (String.ofList value)
  | value => some (String.ofList value)

/-- What a single argument is by its spelling alone. -/
def shapeOf (argument : String) : Shape :=
  match argument.toList with
  | ['-', '-'] => .escape
  | '-' :: '-' :: long =>
    match splitValue long with
    | ("help", none) => .help
    | ("version", none) => .version
    | ("config", value) => .valueOption .config value
    | ("log-level", value) => .valueOption .logLevel value
    | _ => .unknown
  | '-' :: 'h' :: _ => .help
  | '-' :: 'V' :: _ => .version
  | '-' :: 'c' :: rest => .valueOption .config (attachedValue rest)
  | '-' :: _ :: _ => .unknown
  | _ => .plain

/-- Give an option its value: at most once, and a file's path may not be empty. -/
def Draft.set? (draft : Draft) (option : ValueOption) (value : String) : Option Draft :=
  match option with
  | .config =>
    if draft.config.isSome || value.isEmpty then none else some { draft with config := some value }
  | .logLevel =>
    if draft.logLevel.isSome then none else some { draft with logLevel := some value }

/-- Give a command its one plain argument. -/
def Draft.setPositional? (mode : Mode) (draft : Draft) (value : String) : Option Draft :=
  if draft.positional.isSome || (mode = .check && value.isEmpty) then none
  else some { draft with positional := some value }

/-- The invocation that a read command line amounts to; each command needs its argument. -/
def Draft.finish (mode : Mode) (draft : Draft) : Invocation :=
  match mode, draft.positional with
  | .check, some input => .run (.check input draft.config)
  | .explain, some code => .run (.explain code)
  | _, none => .misuse

/-- The arguments after `--`. -/
def readPlain (mode : Mode) : Draft → List String → Invocation
  | draft, [] => draft.finish mode
  | draft, argument :: rest =>
    match draft.setPositional? mode argument with
    | some draft => readPlain mode draft rest
    | none => .misuse

/-- The arguments of a command. -/
def readArguments (mode : Mode) : Draft → List String → Invocation
  | draft, [] => draft.finish mode
  | draft, argument :: rest =>
    match shapeOf argument with
    | .escape => readPlain mode draft rest
    | .help => .help
    | .version | .unknown => .misuse
    | .plain =>
      match draft.setPositional? mode argument with
      | some draft => readArguments mode draft rest
      | none => .misuse
    | .valueOption option attached =>
      if option = .config && mode = .explain then .misuse
      else
        match attached, rest with
        | some value, rest =>
          match draft.set? option value with
          | some draft => readArguments mode draft rest
          | none => .misuse
        | none, [] => .misuse
        | none, value :: rest =>
          match shapeOf value, draft.set? option value with
          | .plain, some draft => readArguments mode draft rest
          | _, _ => .misuse

/-- The words after `help`: at most one, and a command's name. -/
def readTopic : List String → Invocation
  | [] => .help
  | [topic] => if topic ∈ ["check", "explain", "help"] then .help else .misuse
  | _ => .misuse

/-- The arguments before the command's name; `given` if the log level is already set. -/
def readLeading (given : Bool) : List String → Invocation
  | [] => .misuse
  | argument :: rest =>
    match shapeOf argument with
    | .help => .help
    | .version => .version
    | .valueOption .logLevel attached =>
      match attached, rest with
      | some _, rest => if given then .misuse else readLeading true rest
      | none, [] => .misuse
      | none, value :: rest =>
        if shapeOf value = .plain && !given then readLeading true rest else .misuse
    | .plain =>
      if argument = "check" then readArguments .check {} rest
      else if argument = "explain" then readArguments .explain {} rest
      else if argument = "help" then readTopic rest
      else .misuse
    | _ => .misuse

/-- What the arguments ask for. -/
def ofArguments (arguments : List String) : Invocation :=
  readLeading false arguments

/-- Carry an invocation out.  A misuse has an exit code of its own. -/
def execute (files : Files) : Invocation → Result
  | .run command => command.execute files
  | .version => { exitCode := 0, output := versionText }
  | .help => { exitCode := 0, output := usageText }
  | .misuse => { exitCode := 2, complaint := usageText }

end Invocation

end DeclCheck
