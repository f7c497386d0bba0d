import ControlPlane.Condition.Basic
import ControlPlane.Schema.Message

/-!
# The two document contracts

Rulesets and verdicts have closed schemas. A document that does not satisfy its schema is refused
with every violation.

## Main definitions

* `RulesetSchema.Name`, `RulesetSchema.definitions`, `RulesetSchema.root` : rulesets.
* `VerdictSchema.root` : verdicts.
* `Contract.check` : validation against one of the two.
* `Contract.Refusal` : the violations, with their wording.
-/

namespace ControlPlane

namespace RulesetSchema

/-- The named constraints of rulesets. -/
inductive Name where
  | nonEmptyString
  | semver
  | enumSet
  | templateId
  | verdict
  | rule
  | templateExpr
deriving DecidableEq, Repr

/-- A closed object with exactly the given keys. -/
def exactly (properties : List (String × Schema Name)) : RecordShape Name :=
  .mk 0 (properties.map Prod.fst) properties

/-- The member that tells the shapes of conditions apart. -/
def tag (t : TemplateId) : String × Schema Name := ("template_id", .inline (.constant t.text))

/-- The member that tells disjunction and negation apart. -/
def operator (name : String) : String × Schema Name := ("op", .inline (.constant name))

/-- The path of a field. -/
def fieldPath : String × Schema Name := ("field_path", .ref .nonEmptyString)

/-- The conditions under a conjunction or disjunction. -/
def children : String × Schema Name := ("children", .inline (.list 1 (.ref .templateExpr)))

/-- The eight shapes of conditions. -/
def conditionShapes : List (RecordShape Name) := [
  exactly [tag .fieldEq, fieldPath, ("value", .ref .nonEmptyString)],
  exactly [tag .fieldIn, fieldPath, ("values", .ref .enumSet)],
  exactly [tag .fieldExists, fieldPath],
  exactly [tag .setIntersects, fieldPath, ("values", .ref .enumSet)],
  exactly [tag .windowMatch],
  exactly [tag .logicalAnd, children],
  exactly [tag .logicalOrNot, operator "OR", children],
  exactly [tag .logicalOrNot, operator "NOT", ("child", .ref .templateExpr)]]

/-- The shape of a rule. -/
def ruleShape : RecordShape Name :=
  exactly [
    ("rule_id", .ref .nonEmptyString), ("rule_version", .ref .semver),
    ("template_id", .ref .templateId), ("expr", .ref .templateExpr), ("verdict", .ref .verdict)]

/-- What the names stand for. -/
def definitions : Name → Constraint Name
  | .nonEmptyString => .text 1
  | .semver => .version
  | .enumSet => .list 1 (.ref .nonEmptyString)
  | .templateId => .enumeration (TemplateId.all.map TemplateId.text)
  | .verdict => .enumeration ["ALLOW", "DENY", "UNDETERMINED"]
  | .rule => .record ruleShape
  | .templateExpr => .oneOf conditionShapes

/-- The shape of a ruleset. -/
def shape : RecordShape Name :=
  exactly [
    ("type", .inline (.constant "control_ruleset_v0")), ("schema_version", .ref .semver),
    ("ruleset_id", .ref .nonEmptyString), ("action_code", .ref .nonEmptyString),
    ("combine_strategy", .inline (.enumeration ["DENY_OVERRIDES", "FIRST_MATCH"])),
    ("default_verdict", .inline (.constant "UNDETERMINED")),
    ("inputs_used", .inline (.list 1 (.ref .nonEmptyString))),
    ("allowed_template_ids", .inline (.list 1 (.ref .templateId))),
    ("rules", .inline (.list 1 (.ref .rule)))]

/-- What a ruleset has to satisfy. -/
def root : Constraint Name := .record shape

end RulesetSchema

namespace VerdictSchema

/-- A text that is not empty. -/
def filled : Schema Empty := .inline (.text 1)

/-- An integer that is not negative. -/
def time : Schema Empty := .inline (.integer 0)

/-- The shape of a subject: at least one name, none of them empty. -/
def subjectShape : RecordShape Empty :=
  .mk 1 [] [("projectId", filled), ("groupId", filled), ("plotId", filled), ("blockId", filled)]

/-- The shape of a window. -/
def windowShape : RecordShape Empty :=
  .mk 0 ["startTs", "endTs"] [("startTs", time), ("endTs", time)]

/-- The shape of a verdict. -/
def shape : RecordShape Empty :=
  .mk 0
    ["type", "schema_version", "verdict_id", "evaluated_at_ts", "subjectRef", "window",
      "action_code", "verdict"]
    [("type", .inline (.constant "control_verdict_v0")), ("schema_version", .inline .version),
      ("verdict_id", filled), ("evaluated_at_ts", time),
      ("subjectRef", .inline (.record subjectShape)), ("window", .inline (.record windowShape)),
      ("action_code", filled),
      ("verdict", .inline (.enumeration ["ALLOW", "DENY", "UNDETERMINED"])),
      ("rule_ref", filled), ("ruleset_ref", filled),
      ("ruleset_status", .inline (.enumeration ["APPLIED", "MISSING", "INVALID"]))]

/-- What a verdict has to satisfy. -/
def root : Constraint Empty := .record shape

end VerdictSchema

/-- The two kinds of documents with a schema. -/
inductive Contract where
  | ruleset
  | verdict
deriving DecidableEq, Repr

namespace Contract

/-- The file that publishes the schema. -/
def fileName : Contract → String
  | .ruleset => "control_ruleset_v0.schema.json"
  | .verdict => "control_verdict_v0.schema.json"

/-- Every violation of the schema by a document. -/
def violations : Contract → Json → List Violation
  | .ruleset, v => Constraint.violations RulesetSchema.definitions v RulesetSchema.root
  | .verdict, v => Constraint.violations Empty.elim v VerdictSchema.root

/-- A document that breaks its schema. -/
structure Refusal where
  contract : Contract
  violations : List Violation

/-- Validates a document. -/
def check (c : Contract) (v : Json) : Except Refusal Unit :=
  if (c.violations v).isEmpty then .ok () else .error ⟨c, c.violations v⟩

namespace Refusal

/-- The place of the first violation. -/
def location (e : Refusal) : String :=
  match e.violations with
  | first :: _ => first.place.location
  | [] => Json.rootLocation

/-- The wording of the refusal. -/
def message (e : Refusal) : String :=
  "document does not satisfy " ++ e.contract.fileName ++ ":\n" ++
    "\n".intercalate (e.violations.map Violation.line)

end Refusal

end Contract

end ControlPlane
