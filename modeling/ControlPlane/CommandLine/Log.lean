import ControlPlane.Evaluation
import ControlPlane.Lifecycle.Index

/-!
# The log of a command

## Main definitions

* `CommandLine.LogLevel`, `CommandLine.LogEvent` : the events and from which verbosity on they are
  shown.
* `LoadedRuleset.logEvents`, `EvaluationInput.logEvents`, `LifecycleInput.logEvent` : what is worth
  noting.
-/

namespace ControlPlane

namespace CommandLine

/-- How much an event matters. -/
inductive LogLevel where
  | error
  | info
  | debug
deriving DecidableEq, Repr

/-- The level as it stands in log lines. -/
def LogLevel.text : LogLevel → String
  | .error => "ERROR"
  | .info => "INFO"
  | .debug => "DEBUG"

/-- The least verbosity at which events of a level are shown. -/
def LogLevel.leastVerbosity : LogLevel → Nat
  | .error => 0
  | .info => 1
  | .debug => 2

/-- An event, with what is to be known about it. -/
structure LogEvent where
  level : LogLevel
  message : String
  details : List (String × Json)

namespace LogEvent

/-- Whether an event is shown. -/
def isShown (verbosity : Nat) (e : LogEvent) : Bool := e.level.leastVerbosity ≤ verbosity

/-- The fields of a log line. -/
def fields (e : LogEvent) : List (String × Json) := ("message", .string e.message) :: e.details

end LogEvent

end CommandLine

open CommandLine

/-- What is worth noting when the file at a path has been loaded: how admission went, if there was
something to admit, and the outcome. -/
def LoadedRuleset.logEvents (path : String) (loaded : LoadedRuleset) : List LogEvent :=
  let admission : List LogEvent := match loaded with
    | .applied _ r =>
      [⟨.debug, "ruleset admitted",
        [("ruleset_id", .string r.id), ("rules", .integer r.rules.length)]⟩]
    | .missing => []
    | .invalid _ refusal =>
      [⟨.debug, "ruleset admission rejected",
        [("code", .string refusal.code), ("error", .string refusal.message)]⟩]
  admission ++ [⟨.info, "ruleset resolved", ("path", .string path) :: loaded.summary⟩]

/-- What is worth noting when a ruleset in force has been asked about an input: the decision, if the
action was on offer. -/
def EvaluationInput.logEvents (i : EvaluationInput) (c : Constitution) :
    LoadedRuleset → List LogEvent
  | .applied _ r =>
    match r.evaluate (i.snapshot c) with
    | .ok d =>
      [⟨.debug, "ruleset evaluated",
        [("ruleset_id", .string r.id), ("verdict", .string d.verdict.text),
          ("defaulted", .bool d.rule.isNone)]⟩]
    | .error _ => []
  | _ => []

/-- What is worth noting about a batch of states before it is indexed. -/
def LifecycleInput.logEvent (i : LifecycleInput) : LogEvent :=
  let groups := (i.states.map ProblemState.key).eraseDups
  ⟨.debug, "computing problem state index",
    [("states", .integer i.states.length), ("groups", .integer groups.length),
      ("frozen", .integer (KeySet.ofList i.frozen).names.length), ("as_of_ts", .integer i.asOf)]⟩

end ControlPlane
