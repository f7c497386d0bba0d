import ControlPlane.Ruleset.Basic
import ControlPlane.Wire.OfJson

/-!
# Rulesets in documents

A ruleset and its rules are closed records. Reading one says nothing yet about whether it may govern
(`ControlPlane.Admission`).

## Main definitions

* `Rule.toJson`, `Ruleset.toJson` : the document forms, members in the order of their keys.
* `Rule.ofJson`, `Ruleset.ofJson` : reading the document forms.
-/

namespace ControlPlane

open Wire (OfJson Record)

/-- Reads a verdict. -/
def Verdict.ofJson : OfJson Verdict := OfJson.choice Verdict.all Verdict.text

/-- Reads a strategy. -/
def CombineStrategy.ofJson : OfJson CombineStrategy :=
  OfJson.choice CombineStrategy.all CombineStrategy.text

/-- Reads the id of a shape. -/
def TemplateId.ofJson : OfJson TemplateId := OfJson.choice TemplateId.all TemplateId.text

/-- Reads a condition. -/
def Condition.read : OfJson Condition := fun v => (Condition.ofJson v).mapError .condition

namespace Rule

/-- The document form. -/
def toJson (r : Rule) : Json :=
  .object [
    ("expr", r.condition.toJson),
    ("rule_id", .string r.id),
    ("rule_version", .string r.version),
    ("template_id", .string r.template.text),
    ("verdict", .string r.verdict.text)]

/-- How a rule is read. -/
def record : Record OfJson Rule where
  name := "Rule"
  blank := default
  closed := true
  fields := [
    ⟨"rule_id", true, fun r v => (OfJson.text v).map fun s => { r with id := s }⟩,
    ⟨"rule_version", true, fun r v => (OfJson.text v).map fun s => { r with version := s }⟩,
    ⟨"template_id", true, fun r v => (TemplateId.ofJson v).map fun t => { r with template := t }⟩,
    ⟨"expr", true, fun r v => (Condition.read v).map fun c => { r with condition := c }⟩,
    ⟨"verdict", true, fun r v => (Verdict.ofJson v).map fun d => { r with verdict := d }⟩]

/-- Reads a rule. -/
def ofJson : OfJson Rule := OfJson.record record

end Rule

namespace Ruleset

/-- The type of the document. -/
def documentType : String := "control_ruleset_v0"

/-- The document form. -/
def toJson (r : Ruleset) : Json :=
  .object [
    ("action_code", .string r.actionCode),
    ("allowed_template_ids", .array (r.allowedTemplates.map fun t => .string t.text)),
    ("combine_strategy", .string r.strategy.text),
    ("default_verdict", .string r.defaultVerdict.text),
    ("inputs_used", .array (r.inputsUsed.map .string)),
    ("rules", .array (r.rules.map Rule.toJson)),
    ("ruleset_id", .string r.id),
    ("schema_version", .string r.schemaVersion),
    ("type", .string documentType)]

/-- How a ruleset is read. -/
def record : Record OfJson Ruleset where
  name := "RuleSet"
  blank := default
  closed := true
  fields := [
    ⟨"type", true, fun r v => (OfJson.constant documentType v).map fun _ => r⟩,
    ⟨"schema_version", true, fun r v => (OfJson.text v).map fun s => { r with schemaVersion := s }⟩,
    ⟨"ruleset_id", true, fun r v => (OfJson.text v).map fun s => { r with id := s }⟩,
    ⟨"action_code", true, fun r v => (OfJson.text v).map fun s => { r with actionCode := s }⟩,
    ⟨"combine_strategy", true, fun r v =>
      (CombineStrategy.ofJson v).map fun s => { r with strategy := s }⟩,
    ⟨"default_verdict", true, fun r v =>
      (OfJson.constant Verdict.undetermined.text v).map fun _ => r⟩,
    ⟨"inputs_used", true, fun r v =>
      (OfJson.items OfJson.text v).map fun paths => { r with inputsUsed := paths }⟩,
    ⟨"allowed_template_ids", true, fun r v =>
      (OfJson.items TemplateId.ofJson v).map fun ids => { r with allowedTemplates := ids }⟩,
    ⟨"rules", true, fun r v =>
      (OfJson.items Rule.ofJson v).map fun rules => { r with rules := rules }⟩]

/-- Reads a ruleset. -/
def ofJson : OfJson Ruleset := OfJson.record record

end Ruleset

end ControlPlane
