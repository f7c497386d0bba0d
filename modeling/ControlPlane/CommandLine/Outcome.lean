import ControlPlane.CommandLine.Arguments
import ControlPlane.CommandLine.Help
import ControlPlane.CommandLine.Log
import ControlPlane.Json.Printer
import ControlPlane.Wire.OfText

/-!
# The commands

A command reads its files, prints one document and tells by its exit status how it went: 0 for
success, 1 for a ruleset that is not in force, and 2 for a failure, of which nothing but an event is
left in the log.

## Main definitions

* `CommandLine.CommandFailure` : the failures, with their wording.
* `CommandLine.Command.perform` : the commands.
* `CommandLine.Outcome.ofArguments` : what the program does with its arguments.
-/

namespace ControlPlane.CommandLine

/-- Why a command fails. -/
inductive CommandFailure where
  | unreadable (what path reason : String)
  | unparsable (what path reason : String)
  | noRuleset (e : Evaluation.Failure)
  | notEvaluated (path : String) (e : Evaluation.Failure)
  | notIndexed (e : LifecycleConstants.Invalid)

/-- The wording of a failure, from the command down to what caused it. -/
def CommandFailure.message : CommandFailure → String
  | .unreadable what path reason => "reading " ++ what ++ ": " ++ path ++ ": " ++ reason
  | .unparsable what path reason => "parsing " ++ what ++ ": " ++ path ++ ": " ++ reason
  | .noRuleset e => e.message ++ ": " ++ e.cause
  | .notEvaluated path e => "evaluating ruleset: " ++ path ++ ": " ++ e.message ++ ": " ++ e.cause
  | .notIndexed e => "computing problem state index: " ++ e.message

/-- What a command comes to. -/
structure Result where
  status : UInt32
  document : Json

/-- A command in the course of being performed. It may fail and keeps the events noted before. -/
abbrev Performing := ExceptT CommandFailure (StateM (List LogEvent))

namespace Performing

/-- Notes events. -/
def note (events : List LogEvent) : Performing Unit := modify (· ++ events)

/-- Goes on with a value that may be absent for a cause. -/
def require {ε α : Type} (failure : ε → CommandFailure) : Except ε α → Performing α
  | .ok value => return value
  | .error cause => throw (failure cause)

end Performing

open Performing

section

/-! ### Reading files -/

variable (files : String → FileEntry)

/-- The bytes of a file. -/
def readBytes (what path : String) : Performing Bytes :=
  require (fun e => .unreadable what path e.message) (files path).read

/-- The constitution of a file, or the standard one. -/
def readConstitution : Option String → Performing Constitution
  | none => return .standard
  | some path => do
    let bytes ← readBytes files "constitution" path
    let invalid : CommandFailure :=
      .unreadable "constitution" path "stream did not contain valid UTF-8"
    let text ← require (fun () => invalid) (bytes.toText?.elim (.error ()) .ok)
    let refused (fault : Constitution.TableFault) : CommandFailure :=
      .unparsable "constitution" path (Constitution.Refusal.invalidTable fault).message
    let c ← require refused (Constitution.ofText text)
    note [⟨.info, "loaded constitution tables", [("path", .string path)]⟩]
    return c

/-- The typed value of a file. -/
def readDocument {α : Type} (read : Wire.OfText α) (what path : String) : Performing α := do
  let bytes ← readBytes files what path
  require (fun e => .unparsable what path e.message) (Wire.ofDocument read bytes)

/-- The ruleset of a file. -/
def readRuleset (failure : Evaluation.Failure → CommandFailure) (path : String) (c : Constitution) :
    Performing LoadedRuleset := do
  let unreadable (fault : FileEntry.ReadFault) : CommandFailure := failure (.unreadable path fault)
  let loaded ← require unreadable (LoadedRuleset.ofEntry c (files path))
  note (loaded.logEvents path)
  return loaded

/-! ### Commands -/

/-- Performs a command; `stamp` is put on the verdict if there is one. -/
def Command.perform (stamp : VerdictStamp) : Command → Performing Result
  | .validateRuleset file constitution => do
    let c ← readConstitution files constitution
    let loaded ← readRuleset files .noRuleset file c
    return ⟨if loaded.isApplied then 0 else 1, .object loaded.summary⟩
  | .evaluate ruleset input constitution => do
    let c ← readConstitution files constitution
    let i ← readDocument files EvaluationInput.read "evaluation input" input
    let loaded ← readRuleset files (.notEvaluated ruleset) ruleset c
    note (i.logEvents c loaded)
    let e ← require (.notEvaluated ruleset) (Evaluation.ofLoaded loaded i c stamp)
    return ⟨0, e.encode .object⟩
  | .lifecycle input => do
    let i ← readDocument files LifecycleInput.read "lifecycle input" input
    let constants ← require .notIndexed (LifecycleConstants.ofMembers i.constants)
    note [i.logEvent]
    let rows := Lifecycle.index constants (.ofList i.frozen) i.states i.asOf
    return ⟨0, .array (rows.map fun row => .object row.members)⟩

end

/-- What the program does. -/
structure Outcome where
  status : UInt32
  output : String
  /-- The events that are shown. -/
  log : List LogEvent
  /-- Why the arguments are refused. -/
  fault : Option UsageFault
  /-- Whether log lines are in JSON. -/
  jsonLog : Bool

namespace Outcome

/-- What a request leads to, given the files by their paths and the stamp of a verdict. -/
def ofRequest (files : String → FileEntry) (stamp : VerdictStamp) : Request → Outcome
  | .version => ⟨0, versionText, [], none, false⟩
  | .help topic => ⟨0, helpText topic, [], none, false⟩
  | .perform command verbosity jsonLog =>
    let (result, events) := (command.perform files stamp).run.run []
    let shown (events : List LogEvent) : List LogEvent := events.filter (·.isShown verbosity)
    match result with
    | .ok result => ⟨result.status, result.document.pretty ++ "\n", shown events, none, jsonLog⟩
    | .error e => ⟨2, "", shown (events ++ [⟨.error, e.message, []⟩]), none, jsonLog⟩

/-- What arguments lead to, given the files by their paths and the stamp of a verdict. -/
def ofArguments (files : String → FileEntry) (stamp : VerdictStamp) (arguments : List String) :
    Outcome :=
  match Request.ofArguments arguments with
  | .ok request => ofRequest files stamp request
  | .error fault => ⟨2, "", [], some fault, false⟩

end Outcome

end ControlPlane.CommandLine
