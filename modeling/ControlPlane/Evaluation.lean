import ControlPlane.ControlVerdict.Contract
import ControlPlane.LoadedRuleset
import ControlPlane.Wire.OfText

/-!
# From a ruleset file to a verdict

The ruleset of a file judges an input, and the verdict is checked against its contract before it is
given out. Rules are consulted only if the ruleset is in force; otherwise nothing is determined. The
input's own subject and window take the place of those that the problem state may claim.

## Main definitions

* `EvaluationInput` : what is judged.
* `EvaluationInput.snapshot` : what rules can see of it.
* `Evaluation.ofLoaded`, `Evaluation.ofEntry` : the checked verdict.
* `Evaluation.Failure` : why there is none, with the wording.
-/

namespace ControlPlane

open Wire (Record Source OfJson OfText)

/-- What is judged. -/
structure EvaluationInput where
  subject : Subject
  window : Window
  actionCode : String
  problemState : Json
  uncertaintyEnvelope : Json
  permissionSet : Json
deriving Inhabited

namespace EvaluationInput

/-- How an input is read. -/
def record {m : Type → Type} [Source m] : Record m EvaluationInput where
  name := "EvaluateInput"
  blank := ⟨.empty, default, "", .null, .null, .null⟩
  closed := true
  fields := [
    ⟨"subjectRef", true, fun i => (fun s => { i with subject := s }) <$> Subject.read⟩,
    ⟨"window", true, fun i => (fun w => { i with window := w }) <$> Window.read⟩,
    ⟨"action_code", true, fun i => (fun s => { i with actionCode := s }) <$> Source.text⟩,
    ⟨"problemState", true, fun i => (fun v => { i with problemState := v }) <$> Source.json⟩,
    ⟨"uncertaintyEnvelope", false, fun i =>
      (fun v => { i with uncertaintyEnvelope := v }) <$> Source.json⟩,
    ⟨"permissionSet", false, fun i => (fun v => { i with permissionSet := v }) <$> Source.json⟩]

/-- Reads an input. -/
def read {m : Type → Type} [Source m] : m EvaluationInput := Source.record record

/-- What the verdict is about. -/
def anchors (i : EvaluationInput) : VerdictAnchors := ⟨i.subject, i.window⟩

/-- The problem state with the input's own subject and window. One that is no object counts as
empty. -/
def anchoredProblemState (i : EvaluationInput) : Json :=
  let members := match i.problemState with
    | .object members => members
    | _ => []
  .object <| Members.insert "window" i.window.toJson <|
    Members.insert "subjectRef" i.subject.toJson members

/-- What rules can see of an input. -/
def snapshot (i : EvaluationInput) (c : Constitution) : Snapshot :=
  .project c ⟨i.anchoredProblemState, i.uncertaintyEnvelope, i.permissionSet⟩

end EvaluationInput

/-- A checked verdict. -/
structure Evaluation where
  verdict : ControlVerdict
  status : RulesetStatus
deriving DecidableEq, Repr

namespace Evaluation

/-- Why there is no verdict. -/
inductive Failure where
  | unreadable (path : String) (fault : FileEntry.ReadFault)
  | notPermitted (e : NotPermitted)
  | contract (e : ControlVerdict.Breach)

/-- The wording of a failure. -/
def Failure.message : Failure → String
  | .unreadable path fault => "failed to read ruleset " ++ path ++ ": " ++ fault.message
  | .notPermitted e => "kernel refused evaluation: " ++ e.message
  | .contract e => "verdict contract violated: " ++ e.message

/-- The wording of what caused a failure. -/
def Failure.cause : Failure → String
  | .unreadable _ fault => fault.message
  | .notPermitted e => e.message
  | .contract e => e.message

/-- The verdict before it is checked. -/
def assemble (loaded : LoadedRuleset) (i : EvaluationInput) (c : Constitution)
    (stamp : VerdictStamp) : Except NotPermitted ControlVerdict :=
  match loaded with
  | .applied digest r => do
    let v ← r.judge (i.snapshot c) i.anchors stamp
    return { v with ruleset := some digest.reference, status := some .applied }
  | _ => .ok (.withoutRuleset stamp i.anchors i.actionCode loaded.reference loaded.status)

/-- The checked verdict of a loaded ruleset. -/
def ofLoaded (loaded : LoadedRuleset) (i : EvaluationInput) (c : Constitution)
    (stamp : VerdictStamp) : Except Failure Evaluation := do
  let v ← (assemble loaded i c stamp).mapError .notPermitted
  return ⟨← v.revalidate.mapError .contract, loaded.status⟩

/-- The checked verdict of a ruleset file. The path stands in messages only. -/
def ofEntry (path : String) (entry : FileEntry) (i : EvaluationInput) (c : Constitution)
    (stamp : VerdictStamp) : Except Failure Evaluation := do
  ofLoaded (← (LoadedRuleset.ofEntry c entry).mapError (.unreadable path)) i c stamp

/-- The document form, with objects made from members in the order of declaration. -/
def encode (object : List (String × Json) → Json) (e : Evaluation) : Json :=
  object [("verdict", e.verdict.encode object), ("ruleset_status", .string e.status.text)]

end Evaluation

end ControlPlane
