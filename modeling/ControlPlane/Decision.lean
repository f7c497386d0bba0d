import ControlPlane.Condition.Holds
import ControlPlane.Ruleset.Basic

/-!
# Decisions

A ruleset decides on a snapshot by one pass over its rules. It may only do so for an action that the
permission set offers.

## Main definitions

* `Decision` : a verdict and the rule that it comes from.
* `Ruleset.decision` : what the rules decide.
* `Ruleset.checkPermission` : refuses an action that is not offered.
* `Ruleset.evaluate` : the decision on an action that is offered.
-/

namespace ControlPlane

/-- What was decided. The default verdict comes from no rule. -/
structure Decision where
  verdict : Verdict
  rule : Option RuleReference
deriving DecidableEq, Repr

/-- The action of a ruleset is not offered. -/
structure NotPermitted where
  actionCode : String
deriving DecidableEq, Repr

namespace NotPermitted

/-- The wording of the refusal. -/
def message (e : NotPermitted) : String :=
  "action_code " ++ e.actionCode ++ " is not in permission_set.candidate_actions"

/-- The code under which the refusal is recorded. -/
def code (_ : NotPermitted) : String := "ACTION_CODE_NOT_IN_PERMISSION_SET"

end NotPermitted

namespace Ruleset

/-- Where the actions on offer stand. -/
def candidateActions : String := "permission_set.candidate_actions[].action_code"

/-- The rule that decides when the first rule that holds wins. -/
def firstMatch? (s : Snapshot) : List Rule → Option Rule
  | [] => none
  | rule :: rest => if rule.condition.holds s then some rule else firstMatch? s rest

/-- The rule that decides when denial wins, where `allowing` is the first rule passed so far that
holds and allows. Rules that leave the verdict open count for nothing. -/
def denyOverrides? (s : Snapshot) (allowing : Option Rule) : List Rule → Option Rule
  | [] => allowing
  | rule :: rest =>
    if rule.condition.holds s then
      match rule.verdict with
      | .deny => some rule
      | .allow => denyOverrides? s (allowing.or (some rule)) rest
      | .undetermined => denyOverrides? s allowing rest
    else denyOverrides? s allowing rest

/-- The rule that decides. -/
def decidingRule? (r : Ruleset) (s : Snapshot) : Option Rule :=
  match r.strategy with
  | .firstMatch => firstMatch? s r.rules
  | .denyOverrides => denyOverrides? s none r.rules

/-- What the rules decide. -/
def decision (r : Ruleset) (s : Snapshot) : Decision :=
  match r.decidingRule? s with
  | some rule => ⟨rule.verdict, some (r.reference rule)⟩
  | none => ⟨r.defaultVerdict, none⟩

/-- Refuses an action that is not among those on offer. -/
def checkPermission (r : Ruleset) (s : Snapshot) : Except NotPermitted Unit :=
  if r.actionCode ∈ s.texts candidateActions then .ok () else .error ⟨r.actionCode⟩

/-- The decision on an action that is offered. -/
def evaluate (r : Ruleset) (s : Snapshot) : Except NotPermitted Decision := do
  r.checkPermission s
  return r.decision s

end Ruleset

end ControlPlane
