import ControlPlane.Wire.OfJson
import ControlPlane.Json.Reader

/-!
# Typed reading of documents

A typed value is read from the bytes of a document in one pass, so that the first fault counts,
whether the document is malformed there or does not fit the type. The place of a fault is told by
the bytes that are left.

## Main definitions

* `Wire.Fault` : a malformed document or a mismatch, and its place.
* `Wire.OfText` : how a type is read from a document.
* `OfText.skipValue` : passes over the value of an unknown field.
* `OfText.ofValue` : a type that is read from a value.
* `OfText.record`, `OfText.source` : records, and the source of documents.
* `Wire.ofDocument` : the typed value of a whole document.
-/

namespace ControlPlane.Wire

open Json (Malformed Malformation skipBlank isDigit)

/-- Why a document cannot be read as a typed value. -/
inductive Fault where
  | malformed (e : Malformed)
  /-- A mismatch, with the number of bytes that follow its place, if it has one. -/
  | mismatch (e : Mismatch) (left : Option Nat)

/-- How a type is read from the bytes that are left, with arrays and objects nesting at most `depth`
deep. -/
def OfText (α : Type) := (depth : Nat) → Bytes → Except Fault (α × Bytes)

namespace OfText

/-- A rule of documents, for a typed value. -/
def plain {α : Type} (read : Except Malformed α) : Except Fault α := read.mapError .malformed

/-- Refuses a mismatch directly in front of the rest. -/
def mismatch {α : Type} (e : Mismatch) (rest : Bytes) : Except Fault α :=
  .error (.mismatch e (some rest.length))

/-! ### Passing over values -/

/-- Passes over the digits of a number behind its sign; only their form counts. -/
def skipNumber (text : Bytes) : Except Malformed Bytes := do
  let rest ← match text with
    | [] => throw (.before .invalidNumber [])
    | b :: rest =>
      if b = 0x30 then
        if rest.head?.any isDigit then throw (.onFirst .invalidNumber rest) else pure rest
      else if isDigit b then pure (rest.dropWhile isDigit)
      else throw (.before .invalidNumber rest)
  let rest ←
    if rest.head? = some 0x2e then
      let digits := rest.drop 1
      if digits.head?.any isDigit then pure (digits.dropWhile isDigit)
      else throw (.onFirst .invalidNumber digits)
    else pure rest
  if rest.head? = some 0x65 || rest.head? = some 0x45 then
    let rest := rest.drop 1
    let rest := if rest.head? = some 0x2b || rest.head? = some 0x2d then rest.drop 1 else rest
    if rest.head?.any isDigit then pure (rest.dropWhile isDigit)
    else throw (.onFirst .invalidNumber rest)
  else pure rest

/-- Passes over a string behind its opening quote; surrogates and UTF-8 do not count. -/
def skipString : (fuel : Nat) → Bytes → Except Malformed Bytes
  | 0, _ | _, [] => .error (.before .endInString [])
  | fuel + 1, b :: rest =>
    if b = 0x22 then .ok rest
    else if b = 0x5c then
      match rest with
      | [] => .error (.before .endInString [])
      | c :: rest =>
        if c = 0x75 then do skipString fuel (← Json.readHexEscape rest).2
        else if (Json.shortEscape? c).isSome then skipString fuel rest
        else .error (.before .invalidEscape rest)
    else if b < 0x20 then .error (.before .controlCharacter (b :: rest))
    else skipString fuel rest

/-- Passes over a key and its colon, from blanks in front of the key. -/
def skipKey (text : Bytes) : Except Malformed Bytes :=
  match skipBlank text with
  | [] => .error (.before .endInObject [])
  | b :: rest =>
    if b = 0x22 then do Json.afterColon (← skipString (rest.length + 1) rest)
    else .error (.onFirst .keyNotString (b :: rest))

/-- What passing over nested values waits for: `true` stands for an object that is open, `false` for
a list. -/
abbrev OpenParts := List Bool

/-- Ends of open parts, until a comma announces another value or nothing is open. The next value is
told from the end by `some`. -/
def skipEnds : OpenParts → Bytes → Except Malformed (Option (OpenParts × Bytes) × Bytes)
  | [], text => .ok (none, text)
  | inObject :: outer, text =>
    match skipBlank text with
    | [] => .error (.before (if inObject then .endInObject else .endInList) [])
    | b :: rest =>
      if b = 0x2c then do
        let rest ← if inObject then skipKey rest else pure rest
        return (some (inObject :: outer, rest), [])
      else if b = (if inObject then 0x7d else 0x5d) then skipEnds outer rest
      else .error
        (.onFirst (if inObject then .expectedCommaOrBrace else .expectedCommaOrBracket) (b :: rest))

/-- Passes over a value and over what is open around it. Each step reads a byte at least, so the
length of the text is fuel enough. Nesting is not bounded. -/
def skipParts : (fuel : Nat) → OpenParts → Bytes → Except Malformed Bytes
  | 0, _, _ => .error (.before .endInValue [])
  | fuel + 1, opened, text =>
    let continueFrom (opened : OpenParts) (text : Bytes) : Except Malformed Bytes := do
      match ← skipEnds opened text with
      | (none, rest) => return rest
      | (some (opened, rest), _) => skipParts fuel opened rest
    match skipBlank text with
    | [] => .error (.before .endInValue [])
    | b :: rest =>
      if b = 0x6e then do continueFrom opened (← Json.readWord Json.nullTail rest)
      else if b = 0x74 then do continueFrom opened (← Json.readWord Json.trueTail rest)
      else if b = 0x66 then do continueFrom opened (← Json.readWord Json.falseTail rest)
      else if b = 0x2d then do continueFrom opened (← skipNumber rest)
      else if isDigit b then do continueFrom opened (← skipNumber (b :: rest))
      else if b = 0x22 then do continueFrom opened (← skipString (rest.length + 1) rest)
      else if b = 0x5b then
        match skipBlank rest with
        | [] => .error (.before .endInList [])
        | c :: inner =>
          if c = 0x5d then continueFrom opened inner
          else skipParts fuel (false :: opened) (c :: inner)
      else if b = 0x7b then
        match skipBlank rest with
        | [] => .error (.before .endInObject [])
        | c :: inner =>
          if c = 0x7d then continueFrom opened inner
          else do skipParts fuel (true :: opened) (← skipKey (c :: inner))
      else .error (.onFirst .expectedValue (b :: rest))

/-- Passes over a value. -/
def skipValue (text : Bytes) : Except Malformed Bytes := skipParts (text.length + 1) [] text

/-! ### Scalars -/

/-- Refuses what stands at the head of the text. A scalar is read first, and the place is behind it;
the place is in front of a bracket. -/
def wrongType {α : Type} (text : Bytes) (wanted : String) : Except Fault α := do
  match text with
  | [] => throw (.malformed (.before .endInValue []))
  | b :: _ =>
    if b = 0x5b then mismatch (.wrongType .sequence wanted) text
    else if b = 0x7b then mismatch (.wrongType .map wanted) text
    else
      let (v, rest) ← plain (Json.readScalar text)
      mismatch (.wrongType (.of v) wanted) rest

/-- A text. -/
def text : OfText String := fun _ bytes =>
  match skipBlank bytes with
  | [] => .error (.malformed (.before .endInValue []))
  | b :: rest => if b = 0x22 then plain (Json.readString rest) else wrongType (b :: rest) "a string"

/-- An integer of 64 bits with a sign. -/
def int64 : OfText Int := fun _ bytes =>
  match skipBlank bytes with
  | [] => .error (.malformed (.before .endInValue []))
  | b :: rest =>
    if b = 0x2d || isDigit b then do
      let (v, rest) ← plain (Json.readScalar (b :: rest))
      match OfJson.int64 v with
      | .ok n => return (n, rest)
      | .error e => mismatch e rest
    else wrongType (b :: rest) "i64"

/-- Any value. -/
def json : OfText Json := fun depth bytes => plain (Json.readValue depth bytes)

/-- Any value that a reader of values accepts. What it refuses is told without a place, and before
what follows the value is looked at. -/
def ofValue {α : Type} (read : OfJson α) : OfText α := fun depth bytes => do
  let (v, rest) ← json depth bytes
  match read v with
  | .ok x => return (x, rest)
  | .error e => throw (.mismatch e none)

/-- A value or `null`. -/
def nullable {α : Type} (value : OfText α) : OfText (Option α) := fun depth bytes =>
  match skipBlank bytes with
  | b :: rest =>
    if b = 0x6e then do return (none, ← plain (Json.readWord Json.nullTail rest))
    else do
      let (x, rest) ← value depth (b :: rest)
      return (some x, rest)
  | [] => .error (.malformed (.before .endInValue []))

/-! ### Lists, members and records -/

/-- Goes one level down behind a bracket, unless the document nests too deep. -/
def nested {α : Type} (read : (depth : Nat) → Bytes → Except Fault α) (bracket : UInt8) :
    (depth : Nat) → Bytes → Except Fault α
  | 0, rest => .error (.malformed (.onFirst .recursionLimit (bracket :: rest)))
  | depth + 1, rest => read depth rest

/-- A list. -/
def items {α : Type} (item : OfText α) : OfText (List α) := fun depth bytes =>
  match skipBlank bytes with
  | b :: rest =>
    if b = 0x5b then nested (fun depth => Json.readItems .malformed (item depth)) b depth rest
    else wrongType (b :: rest) "a sequence"
  | [] => .error (.malformed (.before .endInValue []))

/-- An object taken as its members. -/
def members : OfText Members := fun depth bytes =>
  match skipBlank bytes with
  | b :: rest =>
    if b = 0x7b then
      nested (fun depth rest => plain
        (Json.readMembers id (Json.readMember (Json.readValue depth)) [] rest)) b depth rest
    else wrongType (b :: rest) "a map"
  | [] => .error (.malformed (.before .endInValue []))

section

variable {α : Type} (r : Record OfText α)

/-- Refuses a mismatch inside an object: the place is behind the brace if the object ends here, else
in front of what comes next. -/
def refuseMember {β : Type} (e : Mismatch) (rest : Bytes) : Except Fault β :=
  let rest := skipBlank rest
  mismatch e (if rest.head? = some 0x7d then rest.drop 1 else rest)

/-- Reads a member into a record, with the names of the fields read so far. -/
def takeMember (depth : Nat) (account : α × List String) (key : String) (rest : Bytes) :
    Except Fault ((α × List String) × Bytes) :=
  match r.field? key with
  | some f =>
    if account.2.contains key then refuseMember (.duplicateField key) rest
    else do
      let (value, rest) ← f.store account.1 depth (← plain (Json.afterColon rest))
      return ((value, key :: account.2), rest)
  | none =>
    if r.closed then refuseMember (.unknownField key r.fieldNames) rest
    else do return (account, ← plain do skipValue (← Json.afterColon rest))

/-- What must follow the last value of a record in the form of an array. -/
def arrayEnd (text : Bytes) : Except Malformed Bytes :=
  match skipBlank text with
  | [] => .error (.before .endInList [])
  | b :: rest =>
    if b = 0x5d then .ok rest
    else if b != 0x2c then .error (.onFirst .trailingCharacters (b :: rest))
    else
      let next := skipBlank rest
      .error (.onFirst
        (if next.head? = some 0x5d then .trailingComma else .trailingCharacters) next)

/-- Reads values into fields, in the order of declaration, from the first value or the end. `index`
is the number of values read. -/
def takeItems (depth : Nat) : List (Field OfText α) → (index : Nat) → Bytes → α →
    Except Fault (α × Bytes)
  | [], _, bytes, value => do return (value, ← plain (arrayEnd bytes))
  | f :: fields, index, bytes, value =>
    let readHere (bytes : Bytes) : Except Fault (α × Bytes) := do
      let (value, rest) ← f.store value depth bytes
      takeItems depth fields (index + 1) rest value
    match skipBlank bytes with
    | [] => .error (.malformed (.before .endInList []))
    | b :: rest =>
      if b = 0x5d then
        if f.required then mismatch (.wrongLength index r.withLength) rest
        else takeItems depth fields (index + 1) bytes value
      else if index = 0 then readHere (b :: rest)
      else if b != 0x2c then .error (.malformed (.onFirst .expectedCommaOrBracket (b :: rest)))
      else match skipBlank rest with
        | [] => .error (.malformed (.before .endInValue []))
        | c :: rest =>
          if c = 0x5d then .error (.malformed (.onFirst .trailingComma (c :: rest)))
          else readHere (c :: rest)

/-- The fields of a record behind its opening brace. -/
def recordMembers (depth : Nat) (rest : Bytes) : Except Fault (α × Bytes) := do
  let ((value, seen), rest) ← Json.readMembers .malformed (takeMember r depth) (r.blank, []) rest
  match r.missing? seen with
  | some name => mismatch (.missingField name) rest
  | none => return (value, rest)

/-- A record. -/
def record : OfText α := fun depth bytes =>
  match skipBlank bytes with
  | b :: rest =>
    if b = 0x5b then
      nested (fun depth rest => takeItems r depth r.fields 0 rest r.blank) b depth rest
    else if b = 0x7b then nested (recordMembers r) b depth rest
    else wrongType (b :: rest) ("struct " ++ r.name)
  | [] => .error (.malformed (.before .endInValue []))

end

instance source : Source OfText where
  map f read depth bytes := (read depth bytes).map fun x => (f x.1, x.2)
  text := text
  int64 := int64
  json := json
  members := members
  nullable := nullable
  items := items
  record := record

end OfText

/-- Why a document cannot be read as a typed value, and where, for a mismatch that has a place. -/
inductive DocumentError where
  | malformed (e : Json.SourceError)
  | mismatch (e : Mismatch) (position : Option Json.Position)

/-- The wording of the refusal. -/
def DocumentError.message : DocumentError → String
  | .malformed e => e.message
  | .mismatch e position => e.message ++ (position.map Json.Position.suffix).getD ""

/-- The refusal of a whole document. -/
def Fault.inSource (document : Bytes) : Fault → DocumentError
  | .malformed e => .malformed (e.inSource document)
  | .mismatch e left =>
    .mismatch e (left.map fun count => .behind document (document.length - count))

/-- The typed value of a whole document. -/
def ofDocument {α : Type} (read : OfText α) (document : Bytes) : Except DocumentError α :=
  let typed : Except Fault α := do
    let (value, rest) ← read Json.nestingLimit document
    OfText.plain (Json.expectEnd rest)
    return value
  typed.mapError (Fault.inSource document)

end ControlPlane.Wire
