import ControlPlane.Json.Path
import ControlPlane.Json.Printer

/-!
# Schemas

A schema constrains a value by its kind and by what belongs to the kind: a least length, a least
number of items, the keys of a closed object. Schemas may refer to named constraints, so that they
describe values of unbounded depth; a named constraint is never itself a reference, and what a
choice chooses among are closed objects, so that validation descends into the value at every step
but one.

Validation reports every violation. Inside one constraint the parts of the value come first, objects
in the order of their keys, and then the constraint's own keywords in alphabetical order.

## Main definitions

* `Schema`, `Constraint`, `RecordShape` : the language of schemas.
* `Complaint`, `Violation` : what is violated and where.
* `Constraint.accepts` : whether a value satisfies a constraint.
* `Constraint.violations` : every violation.
-/

namespace ControlPlane

mutual

/-- A constraint, given by its name or at the spot. -/
inductive Schema (δ : Type) where
  | ref (name : δ)
  | inline (constraint : Constraint δ)

/-- What a value has to satisfy. -/
inductive Constraint (δ : Type) where
  /-- Exactly this text. -/
  | constant (text : String)
  /-- One of these texts. -/
  | enumeration (texts : List String)
  /-- A text of at least so many characters. -/
  | text (minLength : Nat)
  /-- Three runs of digits with points between them. -/
  | version
  /-- An integer that is not less than this. -/
  | integer (minimum : Int)
  /-- A list of at least so many items, all of one schema. -/
  | list (minItems : Nat) (items : Schema δ)
  /-- A closed object. -/
  | record (shape : RecordShape δ)
  /-- Exactly one of several closed objects. -/
  | oneOf (alternatives : List (RecordShape δ))

/-- A closed object: how many keys it has at least, which it must have, and the schema of each key
that it may have. -/
inductive RecordShape (δ : Type) where
  | mk (minProperties : Nat) (required : List String) (properties : List (String × Schema δ))

end

namespace RecordShape

variable {δ : Type}

/-- The least number of keys. -/
def minProperties : RecordShape δ → Nat
  | mk least _ _ => least

/-- The keys that must be present, in the order in which missing ones are reported. -/
def required : RecordShape δ → List String
  | mk _ required _ => required

/-- The schemas of the keys. -/
def properties : RecordShape δ → List (String × Schema δ)
  | mk _ _ properties => properties

/-- The schema of a key. -/
def property? (shape : RecordShape δ) (key : String) : Option (Schema δ) :=
  (shape.properties.find? fun p => p.1 == key).map Prod.snd

/-- The present keys that have no schema. -/
def unexpected (shape : RecordShape δ) (members : Members) : List String :=
  members.keys.filter fun key => (shape.property? key).isNone

/-- The required keys that are absent. -/
def missing (shape : RecordShape δ) (members : Members) : List String :=
  shape.required.filter fun key => !members.keys.contains key

end RecordShape

/-- What is wrong with a value. -/
inductive Complaint where
  | wrongType (found : Json) (wanted : String)
  | missing (key : String)
  | unexpected (keys : List String)
  | notConstant (wanted : String)
  | notListed (found : Json) (choices : List String)
  | tooShort (found : Json) (least : Nat)
  | tooFewItems (found : Json) (least : Nat)
  | tooFewKeys (found : Json) (least : Nat)
  | tooSmall (found : Json) (least : Int)
  | noVersion (found : Json)
  | notOneOf (found : Json)

/-- A complaint with its place: the path to the value, and the path through the schema to the
constraint. -/
structure Violation where
  place : Json.Path
  rule : List String
  complaint : Complaint

/-- A violation of a part, seen from the whole. -/
def Violation.under (steps : Json.Path) (rules : List String) (e : Violation) : Violation :=
  { e with place := steps ++ e.place, rule := rules ++ e.rule }

/-- The characters behind a run of digits, of which there must be one at least. -/
def afterDigits? (text : List Char) : Option (List Char) :=
  if text.head?.any Char.isDigit then some (text.dropWhile Char.isDigit) else none

/-- The characters behind a point. -/
def afterPoint? : List Char → Option (List Char)
  | '.' :: rest => some rest
  | _ => none

/-- Whether a text is three runs of ASCII digits with points between them. -/
def isVersion (s : String) : Bool :=
  let rest := do
    let rest ← afterPoint? (← afterDigits? s.toList)
    let rest ← afterPoint? (← afterDigits? rest)
    afterDigits? rest
  rest == some []

/-- Whether a value is an integer; a double without a fraction is one. -/
def Json.isWhole : Json → Bool
  | .integer _ => true
  | .float x =>
    match x.classify with
    | .finite _ m q => 0 ≤ q || m % Binary64.twoPow (-q).toNat = 0
    | _ => false
  | _ => false

/-- Whether a value is a number below a bound. -/
def Json.isBelow (least : Int) : Json → Bool
  | .integer n => n < least
  | .float x => x.lt (.ofInt least)
  | _ => false

namespace Schema

variable {δ : Type}

/-- The constraint of a schema. -/
def resolve (definitions : δ → Constraint δ) : Schema δ → Constraint δ
  | .ref name => definitions name
  | .inline c => c

/-- How the path through a schema shows a reference. -/
def route : Schema δ → List String
  | .ref _ => ["$ref"]
  | .inline _ => []

end Schema

namespace Constraint

variable {δ : Type}

/-- The complaints about a value itself, leaving out its parts. -/
def complaints (c : Constraint δ) (v : Json) : List Complaint :=
  match c, v with
  | .constant wanted, .string s => if s = wanted then [] else [.notConstant wanted]
  | .constant wanted, _ => [.notConstant wanted]
  | .enumeration choices, .string s => if choices.contains s then [] else [.notListed v choices]
  | .enumeration choices, _ => [.notListed v choices]
  | .text least, .string s => if s.length < least then [.tooShort v least] else []
  | .text _, _ => [.wrongType v "string"]
  | .version, .string s => if isVersion s then [] else [.noVersion v]
  | .version, _ => [.wrongType v "string"]
  | .integer least, _ =>
    (if v.isBelow least then [.tooSmall v least] else []) ++
      if v.isWhole then [] else [.wrongType v "integer"]
  | .list least _, .array items => if items.length < least then [.tooFewItems v least] else []
  | .list _ _, _ => [.wrongType v "array"]
  | .record shape, .object members =>
    (if (shape.unexpected members).isEmpty then [] else [.unexpected (shape.unexpected members)]) ++
      (if members.length < shape.minProperties then [.tooFewKeys v shape.minProperties] else []) ++
      (shape.missing members).map .missing
  | .record _, _ => [.wrongType v "object"]
  | .oneOf _, _ => []

variable (definitions : δ → Constraint δ)

mutual

/-- Whether a value satisfies a constraint. Of a choice exactly one alternative must fit. -/
def accepts : Json → Constraint δ → Bool
  | .array items, .list least s =>
    ((Constraint.list least s).complaints (.array items)).isEmpty &&
      acceptsItems items (s.resolve definitions)
  | .object members, .record shape =>
    ((Constraint.record shape).complaints (.object members)).isEmpty && acceptsMembers members shape
  | .object members, .oneOf alternatives =>
    (alternatives.countP fun shape =>
      ((Constraint.record shape).complaints (.object members)).isEmpty &&
        acceptsMembers members shape) == 1
  | _, .oneOf _ => false
  | v, c => (c.complaints v).isEmpty

/-- Whether every item satisfies a constraint. -/
def acceptsItems : List Json → Constraint δ → Bool
  | [], _ => true
  | v :: rest, c => accepts v c && acceptsItems rest c

/-- Whether every member with a schema satisfies it. -/
def acceptsMembers : List (String × Json) → RecordShape δ → Bool
  | [], _ => true
  | (k, v) :: rest, shape =>
    (match shape.property? k with
      | some s => accepts v (s.resolve definitions)
      | none => true) &&
      acceptsMembers rest shape

end

/-- Complaints about the whole value. -/
def here (complaints : List Complaint) : List Violation := complaints.map fun e => ⟨[], [], e⟩

mutual

/-- Every violation of a constraint. A choice is one violation, without the reasons of its
alternatives. -/
def violations : Json → Constraint δ → List Violation
  | .array items, .list least s =>
    itemViolations 0 items s ++ here ((Constraint.list least s).complaints (.array items))
  | .object members, .record shape =>
    memberViolations members shape ++ here ((Constraint.record shape).complaints (.object members))
  | v, .oneOf alternatives =>
    if accepts definitions v (.oneOf alternatives) then [] else here [.notOneOf v]
  | v, c => here (c.complaints v)

/-- The violations of items, the first of which stands at the given index. -/
def itemViolations (index : Nat) : List Json → Schema δ → List Violation
  | [], _ => []
  | v :: rest, s =>
    (violations v (s.resolve definitions)).map (.under [.index index] ("items" :: s.route)) ++
      itemViolations (index + 1) rest s

/-- The violations of members that have a schema. -/
def memberViolations : List (String × Json) → RecordShape δ → List Violation
  | [], _ => []
  | (k, v) :: rest, shape =>
    (match shape.property? k with
      | some s =>
        (violations v (s.resolve definitions)).map
          (.under [.key k] ("properties" :: k :: s.route))
      | none => []) ++
      memberViolations rest shape

end

end Constraint

end ControlPlane
