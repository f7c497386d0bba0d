import ControlPlane.Wire.Mismatch

/-!
# Typed reading, whatever the source

A record is described once, by its fields, and read from a value or from the text of a document.
Both forms of a record are accepted: an object with its fields in any order, and an array with their
values in the order of declaration.

## Main definitions

* `Wire.Field`, `Wire.Record` : the description of a record.
* `Wire.Source` : what every source of typed values offers.
-/

namespace ControlPlane.Wire

/-- A field of a record `α`, read by `m`. -/
structure Field (m : Type → Type) (α : Type) where
  /-- The key of the field. -/
  name : String
  /-- Whether the field has no default. -/
  required : Bool
  /-- Reads the value of the field into a record. -/
  store : α → m α

/-- The description of a record `α`, read by `m`. -/
structure Record (m : Type → Type) (α : Type) where
  /-- What messages call the record. -/
  name : String
  /-- The record before a field is read. It holds the defaults of the fields that have one. -/
  blank : α
  /-- Whether other fields than the described ones are refused. -/
  closed : Bool
  /-- The fields in the order of declaration. -/
  fields : List (Field m α)

namespace Record

variable {m : Type → Type} {α : Type} (r : Record m α)

/-- The names of the fields. -/
def fieldNames : List String := r.fields.map (·.name)

/-- The field of a key. -/
def field? (name : String) : Option (Field m α) := r.fields.find? fun f => f.name == name

/-- The first required field that is not among those seen. -/
def missing? (seen : List String) : Option String :=
  (r.fields.find? fun f => f.required && !seen.contains f.name).map (·.name)

/-- What messages call a record with its number of fields. -/
def withLength : String :=
  "struct " ++ r.name ++ " with " ++ toString r.fields.length ++
    if r.fields.length = 1 then " element" else " elements"

end Record

/-- What every source of typed values offers. -/
class Source (m : Type → Type) extends Functor m where
  /-- A text. -/
  text : m String
  /-- An integer of 64 bits with a sign. -/
  int64 : m Int
  /-- Any value. -/
  json : m Json
  /-- An object taken as its members. -/
  members : m Members
  /-- A value or `null`. -/
  nullable {α : Type} : m α → m (Option α)
  /-- A list. -/
  items {α : Type} : m α → m (List α)
  /-- A record. -/
  record {α : Type} : Record m α → m α

end ControlPlane.Wire
