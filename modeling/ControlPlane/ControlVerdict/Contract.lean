import ControlPlane.ControlVerdict.Basic
import ControlPlane.Digest.Document
import ControlPlane.Schema.Contract

/-!
# The contract of verdicts

Every verdict that leaves the control plane satisfies a closed schema and three conditions that the
schema cannot express: its subject has a name, its window is well formed, and the reference to its
ruleset is a content reference or says that the ruleset is missing.

## Main definitions

* `ControlVerdict.Breach` : how a document breaks the contract, with the wording.
* `ControlVerdict.check` : the conditions beyond the schema.
* `ControlVerdict.parse` : the verdict of a document that satisfies the contract.
* `ControlVerdict.revalidate` : a verdict written and parsed again.
-/

namespace ControlPlane.ControlVerdict

/-- How a document breaks the contract. -/
inductive Breach where
  | schema (refusal : Contract.Refusal)
  | mismatch (e : Wire.Mismatch)
  | emptySubject
  | windowNotWellFormed (window : Window)
  | noContentReference (text : String)

/-- The wording of a breach. -/
def Breach.message : Breach → String
  | .schema refusal =>
    "verdict violates control_verdict_v0 at " ++ refusal.location ++ ": " ++ refusal.message
  | .mismatch e =>
    "verdict violates control_verdict_v0 at " ++ Json.rootLocation ++ ": " ++ e.message
  | .emptySubject => "verdict subjectRef names no subject"
  | .windowNotWellFormed w =>
    "verdict window is not well formed: startTs=" ++ toString w.startTs ++ ", endTs=" ++
      toString w.endTs
  | .noContentReference text =>
    "verdict ruleset_ref " ++ Text.quoted text ++ " is not a sha256 content ref"

/-- Whether a text refers to a document by its content, or to none because it is missing. -/
def isRulesetReference (text : String) : Bool :=
  text == missingReference || (ContentDigest.ofReference text).isOk

/-- The conditions beyond the schema. -/
def check (v : ControlVerdict) : Except Breach Unit :=
  if v.subject.isEmpty then .error .emptySubject
  else if ¬ v.window.IsWellFormed then .error (.windowNotWellFormed v.window)
  else match v.ruleset.filter fun text => !isRulesetReference text with
    | some text => .error (.noContentReference text)
    | none => .ok ()

/-- The verdict of a document that satisfies the contract. -/
def parse (document : Json) : Except Breach ControlVerdict := do
  (Contract.verdict.check document).mapError .schema
  let v ← (ofJson document).mapError .mismatch
  v.check
  return v

/-- A verdict written and parsed again. -/
def revalidate (v : ControlVerdict) : Except Breach ControlVerdict := parse v.toJson

end ControlPlane.ControlVerdict
