import ControlPlane.Schema.Basic

/-!
# The wording of violations

## Main definitions

* `Complaint.keyword` : the keyword of a schema that a complaint is about.
* `Complaint.message` : the wording of a complaint.
* `Violation.pointer`, `Violation.schemaPointer`, `Violation.line` : a violation with its places.
-/

namespace ControlPlane

namespace Complaint

/-- The keyword of a schema that is violated. -/
def keyword : Complaint → String
  | .wrongType .. => "type"
  | .missing _ => "required"
  | .unexpected _ => "additionalProperties"
  | .notConstant _ => "const"
  | .notListed .. => "enum"
  | .tooShort .. => "minLength"
  | .tooFewItems .. => "minItems"
  | .tooFewKeys .. => "minProperties"
  | .tooSmall .. => "minimum"
  | .noVersion _ => "pattern"
  | .notOneOf _ => "oneOf"

/-- A text as it stands in a document. -/
def inQuotes (s : String) : String := String.ofList (Json.quoted s)

/-- A number of things. -/
def counted (n : Nat) (one many : String) : String :=
  toString n ++ " " ++ if n = 1 then one else many

/-- The wording of a complaint. -/
def message : Complaint → String
  | .wrongType found wanted => found.compact ++ " is not of type " ++ inQuotes wanted
  | .missing key => inQuotes key ++ " is a required property"
  | .unexpected keys =>
    "Additional properties are not allowed (" ++
      ", ".intercalate (keys.map fun key => "'" ++ key ++ "'") ++
      (if keys.length = 1 then " was" else " were") ++ " unexpected)"
  | .notConstant wanted => inQuotes wanted ++ " was expected"
  | .notListed found choices =>
    found.compact ++ " is not one of " ++ (Json.array (choices.map .string)).compact
  | .tooShort found least =>
    found.compact ++ " is shorter than " ++ counted least "character" "characters"
  | .tooFewItems found least => found.compact ++ " has less than " ++ counted least "item" "items"
  | .tooFewKeys found least =>
    found.compact ++ " has less than " ++ counted least "property" "properties"
  | .tooSmall found least =>
    found.compact ++ " is less than the minimum of " ++ toString least
  | .noVersion found => found.compact ++ " does not match \"^\\d+\\.\\d+\\.\\d+$\""
  | .notOneOf found =>
    found.compact ++ " is not valid under any of the schemas listed in the 'oneOf' keyword"

end Complaint

namespace Violation

/-- Where in the document the violation is. -/
def pointer (e : Violation) : String := e.place.pointer

/-- Which keyword of the schema is violated. -/
def schemaPointer (e : Violation) : String :=
  String.join ((e.rule ++ [e.complaint.keyword]).map fun part => "/" ++ part)

/-- A violation on a line of its own. -/
def line (e : Violation) : String :=
  "  " ++ e.place.location ++ ": " ++ e.complaint.message ++ " [" ++ e.schemaPointer ++ "]"

end Violation

end ControlPlane
