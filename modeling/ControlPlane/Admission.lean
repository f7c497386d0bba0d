import ControlPlane.Constitution.Basic
import ControlPlane.Json.Reader
import ControlPlane.Ruleset.Document
import ControlPlane.Schema.Contract

/-!
# Admission of rulesets

A document governs only after it has passed a fixed sequence of gates, the first of which that fails
decides the refusal:

1. the schema of rulesets, and then the typed reading;
2. the action code is in the taxonomy of the constitution;
3. every declared input is an input path of the constitution;
4. the declared shape of every rule is among those that the ruleset allows;
5. the declared shape of every rule is the shape of its condition;
6. every path that a condition reads at any depth is a declared input.

## Main definitions

* `Admission.Refusal` : the refusals, with their wording, code and kind.
* `Admission.structureOf`, `Admission.checkActionCode`, `Admission.checkInputPaths`,
  `Admission.checkTemplatesAllowed`, `Admission.checkTemplateFidelity`, `Admission.checkClosure` :
  the gates.
* `Admission.ofJson`, `Admission.ofBytes` : the admitted ruleset of a document.
-/

namespace ControlPlane.Admission

/-- Why a document is no ruleset. -/
inductive StructuralFault where
  /-- The document breaks the schema. -/
  | schema (refusal : Contract.Refusal)
  /-- The document does not fit the type. -/
  | mismatch (e : Wire.Mismatch)
  /-- The tables that ought to govern make no constitution. -/
  | tables (fault : Constitution.TableFault)

/-- Where a fault is found. -/
def StructuralFault.location : StructuralFault → String
  | .schema refusal => refusal.location
  | .mismatch _ => Json.rootLocation
  | .tables _ => "(constitution)"

/-- The wording of a fault. -/
def StructuralFault.message : StructuralFault → String
  | .schema refusal => refusal.message
  | .mismatch e => e.message
  | .tables fault => fault.message

/-- Why a ruleset is not admitted. -/
inductive Refusal where
  | notJson (e : Json.SourceError)
  | structural (fault : StructuralFault)
  | unknownActionCode (code : String)
  | disallowedInputPath (path : String)
  | templateNotAllowed (rule : String) (template : TemplateId)
  | templateMismatch (rule : String) (declared embedded : TemplateId)
  | undeclaredFieldPath (rule : String) (path : String)

/-- Whether a document is no ruleset at all, or a ruleset that reaches too far. -/
inductive Kind where
  | structural
  | semantic
deriving DecidableEq, Repr

namespace Refusal

/-- The wording of a refusal. -/
def message : Refusal → String
  | .notJson e => "ruleset is not valid JSON: " ++ e.message
  | .structural fault =>
    "ruleset failed structural admission at " ++ fault.location ++ ": " ++ fault.message
  | .unknownActionCode code => "action_code not in AO taxonomy: " ++ code
  | .disallowedInputPath path => "inputs_used contains a disallowed path: " ++ path
  | .templateNotAllowed rule template =>
    "rule " ++ rule ++ ": template_id " ++ template.text ++ " is not in allowed_template_ids"
  | .templateMismatch rule declared embedded =>
    "rule " ++ rule ++ ": template_id " ++ declared.text ++ " does not match expr.template_id " ++
      embedded.text
  | .undeclaredFieldPath rule path =>
    "rule " ++ rule ++ ": expr references field_path not declared in inputs_used: " ++ path

/-- The code under which a refusal is recorded. -/
def code : Refusal → String
  | .notJson _ => "RULESET_JSON_INVALID"
  | .structural _ => "RULESET_ADMISSION_INVALID"
  | .unknownActionCode _ => "AO_ACTION_CODE_NOT_ALLOWED"
  | .disallowedInputPath _ => "INPUT_PATH_NOT_ALLOWED"
  | .templateNotAllowed .. => "TEMPLATE_ID_NOT_ALLOWED"
  | .templateMismatch .. => "TEMPLATE_ID_MISMATCH"
  | .undeclaredFieldPath .. => "INPUT_PATH_NOT_DECLARED_IN_INPUTS_USED"

/-- The kind of a refusal. -/
def kind : Refusal → Kind
  | .notJson _ | .structural _ => .structural
  | _ => .semantic

end Refusal

/-- The refusal that a constitution's own refusal leads to. -/
def ofConstitution : Constitution.Refusal → Refusal
  | .unknownActionCode code => .unknownActionCode code
  | .disallowedPath path => .disallowedInputPath path
  | .invalidTable fault => .structural (.tables fault)

/-! ### The gates -/

/-- The ruleset that a document describes, if it satisfies the schema. -/
def structureOf (v : Json) : Except Refusal Ruleset := do
  (Contract.ruleset.check v).mapError fun e => .structural (.schema e)
  (Ruleset.ofJson v).mapError fun e => .structural (.mismatch e)

/-- The action exists. -/
def checkActionCode (c : Constitution) (r : Ruleset) : Except Refusal Unit :=
  (c.checkActionCode r.actionCode).mapError ofConstitution

/-- The declared inputs are input paths; the first that is not is refused. -/
def checkInputPaths (c : Constitution) (r : Ruleset) : Except Refusal Unit :=
  match r.inputsUsed.find? fun path => path ∉ c.inputPaths with
  | some path => .error (.disallowedInputPath path)
  | none => .ok ()

/-- The declared shapes are allowed; the first rule of another shape is refused. -/
def checkTemplatesAllowed (r : Ruleset) : Except Refusal Unit :=
  match r.rules.find? fun rule => rule.template ∉ r.allowedTemplates with
  | some rule => .error (.templateNotAllowed rule.id rule.template)
  | none => .ok ()

/-- The declared shapes are those of the conditions; the first rule that differs is refused. -/
def checkTemplateFidelity (r : Ruleset) : Except Refusal Unit :=
  match r.rules.find? fun rule => rule.template ≠ rule.condition.template with
  | some rule => .error (.templateMismatch rule.id rule.template rule.condition.template)
  | none => .ok ()

/-- The least path that a rule reads without declaration. -/
def undeclaredPath? (r : Ruleset) (rule : Rule) : Option String :=
  rule.condition.fieldPaths.names.find? fun path => path ∉ r.declaredInputs

/-- The conditions read declared inputs only; of the first rule that does not, the least path that
is undeclared is refused. -/
def checkClosure (r : Ruleset) : Except Refusal Unit :=
  match r.rules.findSome? fun rule => (undeclaredPath? r rule).map fun path => (rule, path) with
  | some (rule, path) => .error (.undeclaredFieldPath rule.id path)
  | none => .ok ()

/-- The gates behind the first. -/
def checkReach (c : Constitution) (r : Ruleset) : Except Refusal Unit := do
  checkActionCode c r
  checkInputPaths c r
  checkTemplatesAllowed r
  checkTemplateFidelity r
  checkClosure r

/-! ### Admission -/

/-- The admitted ruleset of a value. -/
def ofJson (c : Constitution) (v : Json) : Except Refusal Ruleset := do
  let r ← structureOf v
  checkReach c r
  return r

/-- The admitted ruleset of a document. -/
def ofBytes (c : Constitution) (document : Bytes) : Except Refusal Ruleset := do
  ofJson c (← (Json.parse document).mapError .notJson)

end ControlPlane.Admission
