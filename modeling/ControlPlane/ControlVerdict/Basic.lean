import ControlPlane.Anchor.Subject
import ControlPlane.Anchor.Window
import ControlPlane.Decision
import ControlPlane.Ruleset.Document

/-!
# Control verdicts

A control verdict is the record that leaves the control plane. It says which action was judged for
which subject and window, what the verdict is, which rule it comes from and which ruleset was in
force.

## Main definitions

* `RulesetStatus` : what became of the ruleset.
* `VerdictStamp`, `VerdictAnchors` : the identity and time of a verdict, and what it is about.
* `ControlVerdict` : the record.
* `ControlVerdict.ofDecision`, `ControlVerdict.withoutRuleset` : the verdict of rules, and the
  verdict in the absence of rules.
* `ControlVerdict.toJson`, `ControlVerdict.document` : the document form as a value and as it is
  printed.
* `ControlVerdict.ofJson` : typed reading of the document form.
-/

namespace ControlPlane

open Wire (OfJson Record)

/-- What became of the ruleset behind a verdict. -/
inductive RulesetStatus where
  | applied
  | missing
  | invalid
deriving DecidableEq, Repr, Inhabited

namespace RulesetStatus

/-- Every status, in the order in which messages list them. -/
def all : List RulesetStatus := [.applied, .missing, .invalid]

/-- The status as it stands in documents. -/
def text : RulesetStatus → String
  | .applied => "APPLIED"
  | .missing => "MISSING"
  | .invalid => "INVALID"

/-- Reads a status. -/
def ofJson : OfJson RulesetStatus := OfJson.choice all text

end RulesetStatus

/-- Identity and time of a verdict. They are given from outside, so that judging depends on nothing
but its inputs. -/
structure VerdictStamp where
  id : String
  time : Int
deriving DecidableEq, Repr

/-- What a verdict is about. -/
structure VerdictAnchors where
  subject : Subject
  window : Window
deriving DecidableEq, Repr

/-- The record that leaves the control plane. -/
structure ControlVerdict where
  schemaVersion : String
  id : String
  evaluatedAt : Int
  subject : Subject
  window : Window
  actionCode : String
  verdict : Verdict
  /-- The anchor of the rule that decided. -/
  rule : Option String
  /-- The reference to the ruleset in force. -/
  ruleset : Option String
  status : Option RulesetStatus
deriving DecidableEq, Repr, Inhabited

namespace ControlVerdict

/-- The version of the schema that verdicts follow. -/
def currentSchema : String := "0.1.0"

/-- The reference in place of a ruleset that does not exist. -/
def missingReference : String := "MISSING"

/-- The verdict of a decision. It does not tell the ruleset yet. -/
def ofDecision (stamp : VerdictStamp) (anchors : VerdictAnchors) (actionCode : String)
    (d : Decision) : ControlVerdict where
  schemaVersion := currentSchema
  id := stamp.id
  evaluatedAt := stamp.time
  subject := anchors.subject
  window := anchors.window
  actionCode := actionCode
  verdict := d.verdict
  rule := d.rule.map RuleReference.anchor
  ruleset := none
  status := none

/-- The verdict when there is no ruleset to ask. Nothing is determined. -/
def withoutRuleset (stamp : VerdictStamp) (anchors : VerdictAnchors) (actionCode reference : String)
    (status : RulesetStatus) : ControlVerdict where
  schemaVersion := currentSchema
  id := stamp.id
  evaluatedAt := stamp.time
  subject := anchors.subject
  window := anchors.window
  actionCode := actionCode
  verdict := .undetermined
  rule := none
  ruleset := some reference
  status := some status

/-! ### Documents -/

/-- The type of the document. -/
def documentType : String := "control_verdict_v0"

/-- The document form, with objects made from members in the order of declaration. Absent parts are
omitted. -/
def encode (object : List (String × Json) → Json) (v : ControlVerdict) : Json :=
  let optional (key : String) (value : Option String) : List (String × Json) :=
    value.toList.map fun s => (key, .string s)
  object <|
    [("type", .string documentType),
      ("schema_version", .string v.schemaVersion),
      ("verdict_id", .string v.id),
      ("evaluated_at_ts", .integer v.evaluatedAt),
      ("subjectRef", object v.subject.members),
      ("window", object v.window.members),
      ("action_code", .string v.actionCode),
      ("verdict", .string v.verdict.text)] ++
      optional "rule_ref" v.rule ++ optional "ruleset_ref" v.ruleset ++
      optional "ruleset_status" (v.status.map RulesetStatus.text)

/-- The document form as a value. -/
def toJson (v : ControlVerdict) : Json := encode Json.ofMembers v

/-- The document form as it is printed, members in the order of declaration. -/
def document (v : ControlVerdict) : Json := encode Json.object v

/-- How a verdict is read. -/
def record : Record OfJson ControlVerdict where
  name := "ControlVerdict"
  blank := default
  closed := true
  fields := [
    ⟨"type", true, fun c v => (OfJson.constant documentType v).map fun _ => c⟩,
    ⟨"schema_version", true, fun c v => (OfJson.text v).map fun s => { c with schemaVersion := s }⟩,
    ⟨"verdict_id", true, fun c v => (OfJson.text v).map fun s => { c with id := s }⟩,
    ⟨"evaluated_at_ts", true, fun c v => (OfJson.int64 v).map fun n => { c with evaluatedAt := n }⟩,
    ⟨"subjectRef", true, fun c v =>
      ((Subject.read : OfJson Subject) v).map fun s => { c with subject := s }⟩,
    ⟨"window", true, fun c v =>
      ((Window.read : OfJson Window) v).map fun w => { c with window := w }⟩,
    ⟨"action_code", true, fun c v => (OfJson.text v).map fun s => { c with actionCode := s }⟩,
    ⟨"verdict", true, fun c v => (Verdict.ofJson v).map fun d => { c with verdict := d }⟩,
    ⟨"rule_ref", false, fun c v =>
      (OfJson.nullable OfJson.text v).map fun s => { c with rule := s }⟩,
    ⟨"ruleset_ref", false, fun c v =>
      (OfJson.nullable OfJson.text v).map fun s => { c with ruleset := s }⟩,
    ⟨"ruleset_status", false, fun c v =>
      (OfJson.nullable RulesetStatus.ofJson v).map fun s => { c with status := s }⟩]

/-- Typed reading of the document form. -/
def ofJson : OfJson ControlVerdict := OfJson.record record

end ControlVerdict

namespace Ruleset

/-- The verdict on an action that is offered. -/
def judge (r : Ruleset) (s : Snapshot) (anchors : VerdictAnchors) (stamp : VerdictStamp) :
    Except NotPermitted ControlVerdict :=
  (r.evaluate s).map (.ofDecision stamp anchors r.actionCode)

/-- The verdicts of several rulesets on one snapshot, each by itself. The first refusal ends the
batch; `stamp` gives the stamp of each, and the first of them has the given number. -/
def judgeAll (s : Snapshot) (anchors : VerdictAnchors) (stamp : Nat → VerdictStamp) (number : Nat) :
    List Ruleset → Except NotPermitted (List ControlVerdict)
  | [] => .ok []
  | r :: rest => do
    let v ← r.judge s anchors (stamp number)
    return v :: (← judgeAll s anchors stamp (number + 1) rest)

end Ruleset

end ControlPlane
