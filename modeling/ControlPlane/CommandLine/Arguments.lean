/-!
# Arguments of the command line

Options start with a dash. Those for logging may stand in front of the name of the command or behind
it, and there may be one of each in both places: of two counts the one behind the name is taken. Two
dashes end the options, and a lone dash is no option. Arguments are looked at one by one, so what
asks for help or for the version wins over everything behind it, and over nothing in front of it.

## Main definitions

* `CommandLine.Command`, `CommandLine.Request` : what is asked for.
* `CommandLine.UsageFault` : why arguments are refused.
* `CommandLine.Request.ofArguments` : reads arguments.
-/

namespace ControlPlane.CommandLine

/-- The names of the commands. -/
inductive CommandName where
  | validateRuleset
  | evaluate
  | lifecycle
deriving DecidableEq, Repr

namespace CommandName

/-- Every command, in the order in which they are listed. -/
def all : List CommandName := [.validateRuleset, .evaluate, .lifecycle]

/-- The name as it is typed. -/
def text : CommandName → String
  | .validateRuleset => "validate-ruleset"
  | .evaluate => "evaluate"
  | .lifecycle => "lifecycle"

/-- The command of a name. -/
def ofText? (name : String) : Option CommandName := all.find? fun c => c.text == name

/-- The options that take a value. -/
def options : CommandName → List String
  | .validateRuleset => ["constitution"]
  | .evaluate => ["ruleset", "input", "constitution"]
  | .lifecycle => ["input"]

/-- The number of arguments that are no options. -/
def operandCount : CommandName → Nat
  | .validateRuleset => 1
  | .evaluate | .lifecycle => 0

end CommandName

/-- A command with the paths that it works on. -/
inductive Command where
  | validateRuleset (file : String) (constitution : Option String)
  | evaluate (ruleset input : String) (constitution : Option String)
  | lifecycle (input : String)
deriving DecidableEq, Repr

/-- What is asked for. -/
inductive Request where
  | version
  | help (topic : Option CommandName)
  | perform (command : Command) (verbosity : Nat) (jsonLog : Bool)
deriving DecidableEq, Repr

/-- Why arguments are refused. -/
inductive UsageFault where
  | noCommand
  | unknownCommand (name : String)
  | unexpected (argument : String)
  | repeated (option : String)
  | missing (name : String)
  | noValue (option : String)
deriving DecidableEq, Repr

/-- The wording of a fault. -/
def UsageFault.message : UsageFault → String
  | .noCommand => "a command is required"
  | .unknownCommand name => "unrecognized command '" ++ name ++ "'"
  | .unexpected argument => "unexpected argument '" ++ argument ++ "'"
  | .repeated option => "the option '--" ++ option ++ "' cannot be used more than once"
  | .missing name => "the argument '" ++ name ++ "' is required"
  | .noValue option => "a value is required for '--" ++ option ++ "'"

/-- What has been read of the arguments in front of the name of a command, or of those behind it. -/
structure Reading where
  verbosity : Nat
  jsonLog : Bool
  /-- The options that take a value. -/
  values : List (String × String)
  /-- The arguments that are no options, in reverse. -/
  operands : List String

namespace Reading

/-- Nothing. -/
def empty : Reading := ⟨0, false, [], []⟩

/-- Adds the value of an option. -/
def setValue (option value : String) (r : Reading) : Except UsageFault Reading :=
  if value.isEmpty then .error (.noValue option)
  else if (r.values.lookup option).isSome then .error (.repeated option)
  else .ok { r with values := (option, value) :: r.values }

/-- Asks for log lines in JSON. -/
def setJsonLog (r : Reading) : Except UsageFault Reading :=
  if r.jsonLog then .error (.repeated "log-json") else .ok { r with jsonLog := true }

/-- Adds an argument that is no option, of at most `count`. -/
def addOperand (count : Nat) (operand : String) (r : Reading) : Except UsageFault Reading :=
  if operand.isEmpty || count ≤ r.operands.length then .error (.unexpected operand)
  else .ok { r with operands := operand :: r.operands }

/-- Adds arguments that are no options. -/
def addOperands (count : Nat) (operands : List String) (r : Reading) : Except UsageFault Reading :=
  operands.foldlM (fun r operand => r.addOperand count operand) r

end Reading

/-- What reading an argument leads to. -/
inductive Step where
  /-- There is nothing more to read. -/
  | finished
  | help
  | version
  /-- The name of a command, and the arguments behind it. -/
  | command (name : String) (rest : List String)
  /-- The arguments to read next. -/
  | proceed (rest : List String)

/-- Reads letters behind one dash; `versioned` says that the version may be asked for. -/
def readLetters (versioned : Bool) (argument : String) (rest : List String) :
    List Char → Reading → Except UsageFault (Reading × Step)
  | [], r => .ok (r, .proceed rest)
  | letter :: letters, r =>
    if letter == 'v' then
      readLetters versioned argument rest letters { r with verbosity := r.verbosity + 1 }
    else if letter == 'h' then .ok (r, .help)
    else if letter == 'V' && versioned then .ok (r, .version)
    else .error (.unexpected argument)

/-- The name of an option behind two dashes and the value that is attached to it. -/
def splitOption (text : List Char) : String × Option String :=
  match text.dropWhile (· != '=') with
  | [] => (String.ofList text, none)
  | _ :: value => (String.ofList (text.takeWhile (· != '=')), some (String.ofList value))

/-- Reads an option without value behind two dashes. -/
def readFlag (versioned : Bool) (argument name : String) (rest : List String) (r : Reading) :
    Except UsageFault (Reading × Step) := do
  if name == "verbose" then return ({ r with verbosity := r.verbosity + 1 }, .proceed rest)
  if name == "log-json" then return (← r.setJsonLog, .proceed rest)
  if name == "help" then return (r, .help)
  if name == "version" && versioned then return (r, .version)
  throw (.unexpected argument)

/-- Whether an argument can be the value of the option in front of it. -/
def isValue (argument : String) : Bool := argument == "-" || argument.toList.head? != some '-'

/-- Reads an option with a value, which is attached to it or stands behind it. -/
def readOption (name : String) (value : Option String) (rest : List String) (r : Reading) :
    Except UsageFault (Reading × Step) :=
  match value, rest with
  | some value, rest => do return (← r.setValue name value, .proceed rest)
  | none, value :: rest => do
    if !isValue value then throw (.noValue name)
    return (← r.setValue name value, .proceed rest)
  | none, [] => .error (.noValue name)

/-- Reads what stands behind the end of the options. -/
def readOperands (command : Option CommandName) (rest : List String) (r : Reading) :
    Except UsageFault (Reading × Step) :=
  match command, rest with
  | some name, rest => do return (← r.addOperands name.operandCount rest, .finished)
  | none, [] => .ok (r, .finished)
  | none, operand :: _ => .error (.unexpected operand)

/-- Reads an argument of a command, or one in front of its name if there is none yet. -/
def readArgument (command : Option CommandName) (argument : String) (rest : List String)
    (r : Reading) : Except UsageFault (Reading × Step) :=
  match argument.toList with
  | ['-', '-'] => readOperands command rest r
  | '-' :: '-' :: text =>
    let (name, value) := splitOption text
    if (command.elim [] CommandName.options).contains name then readOption name value rest r
    else if value.isSome then .error (.unexpected argument)
    else readFlag command.isNone argument name rest r
  | '-' :: letter :: letters => readLetters command.isNone argument rest (letter :: letters) r
  | _ =>
    match command with
    | none => .ok (r, .command argument rest)
    | some name => do return (← r.addOperand name.operandCount argument, .proceed rest)

/-- Reads arguments one by one. Each step takes one at least. -/
def readArguments (command : Option CommandName) : (fuel : Nat) → Reading → List String →
    Except UsageFault (Reading × Step)
  | 0, r, _ | _, r, [] => .ok (r, .finished)
  | fuel + 1, r, argument :: rest => do
    let (r, step) ← readArgument command argument rest r
    match step with
    | .proceed rest => readArguments command fuel r rest
    | _ => return (r, step)

/-- The value of an option that must be there. -/
def Reading.value (option : String) (r : Reading) : Except UsageFault String :=
  match r.values.lookup option with
  | some value => .ok value
  | none => .error (.missing ("--" ++ option))

/-- The command of a name with its paths. -/
def Reading.command (name : CommandName) (r : Reading) : Except UsageFault Command := do
  let constitution := r.values.lookup "constitution"
  match name with
  | .validateRuleset =>
    match r.operands with
    | file :: _ => return .validateRuleset file constitution
    | [] => throw (.missing "<FILE>")
  | .evaluate => return .evaluate (← r.value "ruleset") (← r.value "input") constitution
  | .lifecycle => return .lifecycle (← r.value "input")

namespace Request

/-- The help on the command of a name, or on all of them. -/
def ofHelp : List String → Except UsageFault Request
  | [] => .ok (.help none)
  | [name] =>
    match CommandName.ofText? name with
    | some topic => .ok (.help (some topic))
    | none => .error (.unknownCommand name)
  | _ :: argument :: _ => .error (.unexpected argument)

/-- Reads the arguments behind the name of a command, given what has been read in front of it. -/
def ofCommand (outer : Reading) (name : CommandName) (arguments : List String) :
    Except UsageFault Request := do
  let (inner, step) ← readArguments (some name) arguments.length .empty arguments
  match step with
  | .help => return .help (some name)
  | _ =>
    let verbosity := if inner.verbosity = 0 then outer.verbosity else inner.verbosity
    return .perform (← inner.command name) verbosity (outer.jsonLog || inner.jsonLog)

/-- Reads arguments. -/
def ofArguments (arguments : List String) : Except UsageFault Request := do
  let (outer, step) ← readArguments none arguments.length .empty arguments
  match step with
  | .finished | .proceed _ => throw .noCommand
  | .help => return .help none
  | .version => return .version
  | .command name rest =>
    if name == "help" then ofHelp rest
    else match CommandName.ofText? name with
      | some name => ofCommand outer name rest
      | none => throw (.unknownCommand name)

end Request

/-- The paths that a command reads. -/
def Command.paths : Command → List String
  | .validateRuleset file constitution => constitution.toList ++ [file]
  | .evaluate ruleset input constitution => constitution.toList ++ [input, ruleset]
  | .lifecycle input => [input]

end ControlPlane.CommandLine
