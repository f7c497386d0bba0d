import ControlPlane.Condition.Basic

/-!
# Rulesets

A ruleset judges one action. Its rules are visited in their order; each has a condition and the
verdict that it stands for. When no rule decides, the verdict is the default, and the only default
there is says that nothing was determined.

## Main definitions

* `Verdict`, `CombineStrategy` : the three answers, and the two ways to combine rules.
* `Rule`, `Ruleset` : rules and lists of them.
* `Ruleset.defaultVerdict`, `Ruleset.declaredInputs` : what holds of all rules.
* `RuleReference` : which rule decided, with its text and its anchor.
-/

namespace ControlPlane

/-- The answers to whether an action may be taken. -/
inductive Verdict where
  | allow
  | deny
  | undetermined
deriving DecidableEq, Repr, Inhabited

namespace Verdict

/-- Every verdict, in the order in which messages list them. -/
def all : List Verdict := [.allow, .deny, .undetermined]

/-- The verdict as it stands in documents. -/
def text : Verdict → String
  | .allow => "ALLOW"
  | .deny => "DENY"
  | .undetermined => "UNDETERMINED"

end Verdict

/-- How rules that fire together make one decision. -/
inductive CombineStrategy where
  /-- A rule that denies wins, then the first that allows. -/
  | denyOverrides
  /-- The first rule that fires wins. -/
  | firstMatch
deriving DecidableEq, Repr, Inhabited

namespace CombineStrategy

/-- Every strategy, in the order in which messages list them. -/
def all : List CombineStrategy := [.denyOverrides, .firstMatch]

/-- The strategy as it stands in documents. -/
def text : CombineStrategy → String
  | .denyOverrides => "DENY_OVERRIDES"
  | .firstMatch => "FIRST_MATCH"

end CombineStrategy

/-- A rule: its condition and the verdict that it stands for when the condition holds. -/
structure Rule where
  id : String
  version : String
  /-- The declared shape of the condition. -/
  template : TemplateId
  condition : Condition
  verdict : Verdict
deriving Inhabited

/-- Rules about one action. -/
structure Ruleset where
  schemaVersion : String
  id : String
  actionCode : String
  strategy : CombineStrategy
  /-- The paths that conditions may read. -/
  inputsUsed : List String
  /-- The shapes that conditions may have at their outermost level. -/
  allowedTemplates : List TemplateId
  rules : List Rule
deriving Inhabited

/-- Which rule of which ruleset decided. -/
structure RuleReference where
  ruleset : String
  rule : String
  version : String
deriving DecidableEq, Repr

namespace RuleReference

/-- The reference as a text. -/
def text (r : RuleReference) : String := r.ruleset ++ "/" ++ r.rule ++ "@" ++ r.version

/-- What anchors of rules start with. -/
def anchorSpace : String := "repo-const-v0:"

/-- The anchor of a reference that lacks a part. -/
def unparseableAnchor : String := anchorSpace ++ "UNPARSEABLE_RULE_REF"

/-- The anchor that verdicts carry for an audit. -/
def anchor (r : RuleReference) : String :=
  if r.ruleset.isEmpty || r.rule.isEmpty || r.version.isEmpty then unparseableAnchor
  else anchorSpace ++ r.text

end RuleReference

namespace Ruleset

/-- The verdict when no rule decides. -/
def defaultVerdict (_ : Ruleset) : Verdict := .undetermined

/-- The paths that conditions may read, as a set. -/
def declaredInputs (r : Ruleset) : KeySet := .ofList r.inputsUsed

/-- The reference to one of the rules. -/
def reference (r : Ruleset) (rule : Rule) : RuleReference := ⟨r.id, rule.id, rule.version⟩

end Ruleset

end ControlPlane
