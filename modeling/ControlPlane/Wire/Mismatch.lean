import ControlPlane.Condition.Reader
import ControlPlane.Json.Printer

/-!
# Why a document does not fit a type

## Main definitions

* `Wire.Found` : what stands in the document, as messages call it.
* `Wire.Mismatch` : the causes, with their wording.
-/

namespace ControlPlane.Wire

/-- What stands in a document where something else was wanted. -/
inductive Found where
  | null
  | boolean (value : Bool)
  | integer (value : Int)
  | float (value : Binary64)
  | text (value : String)
  | sequence
  | map
  /-- A value that has a name of its own in its format. -/
  | described (name : String)
deriving DecidableEq, Repr

/-- What a value is found to be. -/
def Found.of : Json → Found
  | .null => .null
  | .bool b => .boolean b
  | .integer n => .integer n
  | .float x => .float x
  | .string s => .text s
  | .array _ => .sequence
  | .object _ => .map

/-- A name or value between backquotes. -/
def ticked (s : String) : String := "`" ++ s ++ "`"

/-- The wording of what was found. -/
def Found.message : Found → String
  | .null => "null"
  | .boolean b => "boolean " ++ ticked (toString b)
  | .integer n => "integer " ++ ticked (toString n)
  | .float x => "floating point " ++ ticked ((x.numeral? Json.compactStyle.numeral).getD "")
  | .text s => "string " ++ Text.quoted s
  | .sequence => "sequence"
  | .map => "map"
  | .described name => name

/-- Why a document does not fit a type. -/
inductive Mismatch where
  /-- A field without a default is absent. -/
  | missingField (name : String)
  /-- A closed record has no such field. -/
  | unknownField (name : String) (known : List String)
  /-- A field stands twice. -/
  | duplicateField (name : String)
  /-- A choice has no such variant. -/
  | unknownVariant (name : String) (known : List String)
  /-- Another kind of value is wanted. -/
  | wrongType (found : Found) (wanted : String)
  /-- The kind of value is right but not this value. -/
  | wrongValue (found : Found) (wanted : String)
  /-- A list is too short or too long. -/
  | wrongLength (length : Nat) (wanted : String)
  /-- A condition has no shape of the language. -/
  | condition (e : Condition.ShapeError)
deriving DecidableEq, Repr

/-- The wording of a choice among names. -/
def oneOf : List String → String
  | [a] => ticked a
  | [a, b] => ticked a ++ " or " ++ ticked b
  | names => "one of " ++ ", ".intercalate (names.map ticked)

/-- The wording of a refusal. -/
def Mismatch.message : Mismatch → String
  | .missingField name => "missing field " ++ ticked name
  | .unknownField name known => "unknown field " ++ ticked name ++ ", expected " ++ oneOf known
  | .duplicateField name => "duplicate field " ++ ticked name
  | .unknownVariant name known => "unknown variant " ++ ticked name ++ ", expected " ++ oneOf known
  | .wrongType found wanted => "invalid type: " ++ found.message ++ ", expected " ++ wanted
  | .wrongValue found wanted => "invalid value: " ++ found.message ++ ", expected " ++ wanted
  | .wrongLength length wanted =>
    "invalid length " ++ toString length ++ ", expected " ++ wanted
  | .condition e => e.message

end ControlPlane.Wire
