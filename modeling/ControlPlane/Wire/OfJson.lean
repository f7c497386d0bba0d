import ControlPlane.Wire.Source

/-!
# Typed reading of values

Members of an object are visited in their order, and the first fault counts; fields that are missing
are noticed behind all faults of the present ones.

## Main definitions

* `Wire.OfJson` : how a type is read from a value.
* `OfJson.choice` : a choice among named variants.
* `OfJson.record`, `OfJson.source` : records, and the source of values.
-/

namespace ControlPlane.Wire

/-- How a type is read from a value. -/
abbrev OfJson (α : Type) := Json → Except Mismatch α

namespace OfJson

/-- The least signed integer of 64 bits. -/
def leastInt64 : Int := -9223372036854775808

/-- The first integer too great for 64 bits with a sign. -/
def int64Bound : Int := 9223372036854775808

/-- Refuses a value of another kind. -/
def wrongType {α : Type} (v : Json) (wanted : String) : Except Mismatch α :=
  .error (.wrongType (.of v) wanted)

/-- A text. -/
def text : OfJson String
  | .string s => .ok s
  | v => wrongType v "a string"

/-- An integer of 64 bits with a sign. -/
def int64 : OfJson Int
  | .integer n =>
    if leastInt64 ≤ n ∧ n < int64Bound then .ok n else .error (.wrongValue (.integer n) "i64")
  | v => wrongType v "i64"

/-- An integer of eight bits without a sign. -/
def uint8 : OfJson UInt8
  | .integer n =>
    if 0 ≤ n ∧ n < 256 then .ok (UInt8.ofNat n.toNat) else .error (.wrongValue (.integer n) "u8")
  | v => wrongType v "u8"

/-- An object taken as its members. -/
def members : OfJson Members
  | .object members => .ok members
  | v => wrongType v "a map"

/-- A value or `null`. -/
def nullable {α : Type} (value : OfJson α) : OfJson (Option α)
  | .null => .ok none
  | v => (value v).map some

/-- Items from left to right. -/
def itemList {α : Type} (item : OfJson α) : List Json → Except Mismatch (List α)
  | [] => .ok []
  | v :: rest => do
    let x ← item v
    return x :: (← itemList item rest)

/-- A list. -/
def items {α : Type} (item : OfJson α) : OfJson (List α)
  | .array items => itemList item items
  | v => wrongType v "a sequence"

/-- Exactly `count` items from left to right. -/
def exactly {α : Type} (count : Nat) (item : OfJson α) : OfJson (Vector α count)
  | .array items => do
    let found ← itemList item (items.take count)
    if h : found.toArray.size = count then
      if count < items.length then
        throw (.wrongLength items.length "fewer elements in array")
      else return ⟨found.toArray, h⟩
    else throw (.wrongLength items.length ("an array of length " ++ toString count))
  | v => wrongType v ("an array of length " ++ toString count)

/-- One of named variants: its name, or an object whose only key is the name and whose value is
`null`. -/
def choice {α : Type} (variants : List α) (name : α → String) : OfJson α :=
  let pick (s : String) : Except Mismatch α :=
    match variants.find? fun a => name a == s with
    | some a => .ok a
    | none => .error (.unknownVariant s (variants.map name))
  fun
  | .string s => pick s
  | .object [(s, v)] => do
    let a ← pick s
    match v with
    | .null => return a
    | v => throw (.wrongType (.of v) "unit")
  | .object _ => .error (.wrongValue .map "map with a single key")
  | v => wrongType v "string or map"

/-- A text that can only be one. -/
def constant (value : String) : OfJson Unit := choice [()] fun _ => value

section

variable {α : Type} (r : Record OfJson α)

/-- Reads members into a record, with the names of the fields read so far. -/
def takeMembers : List (String × Json) → α → List String → Except Mismatch (α × List String)
  | [], value, seen => .ok (value, seen)
  | (k, v) :: rest, value, seen =>
    match r.field? k with
    | some f => do takeMembers rest (← f.store value v) (k :: seen)
    | none =>
      if r.closed then .error (.unknownField k r.fieldNames) else takeMembers rest value seen

/-- Reads values into fields, in the order of declaration; `total` is the number of all values and
`index` of those read. -/
def takeItems (total : Nat) : List (Field OfJson α) → (index : Nat) → List Json → α →
    Except Mismatch α
  | [], _, [], value => .ok value
  | [], _, _ :: _, _ => .error (.wrongLength total "fewer elements in array")
  | f :: fields, index, [], value =>
    if f.required then .error (.wrongLength index r.withLength)
    else takeItems total fields (index + 1) [] value
  | f :: fields, index, v :: rest, value => do
    takeItems total fields (index + 1) rest (← f.store value v)

/-- A record. -/
def record : OfJson α
  | .object members => do
    let (value, seen) ← takeMembers r members r.blank []
    match r.missing? seen with
    | some name => throw (.missingField name)
    | none => return value
  | .array items => takeItems r items.length r.fields 0 items r.blank
  | v => wrongType v ("struct " ++ r.name)

end

instance source : Source OfJson where
  map f read v := (read v).map f
  text := text
  int64 := int64
  json := .ok
  members := members
  nullable := nullable
  items := items
  record := record

end OfJson

end ControlPlane.Wire
