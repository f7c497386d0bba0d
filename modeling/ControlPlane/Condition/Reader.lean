import ControlPlane.Condition.Basic
import ControlPlane.Json.Path
import ControlPlane.Text.Unicode

/-!
# Reading conditions from documents

The reader is strict: it refuses unknown and missing keys, empty texts and empty lists, and names
the part of the document that is at fault. The parts are looked at from left to right.

## Main definitions

* `Condition.ShapeError` : the cause and the place of a refusal, with its wording.
* `Condition.ofJson` : the condition of a document.
-/

namespace ControlPlane.Condition

/-- Why a part of a document is no condition. -/
inductive ShapeReason where
  | notObject
  | noTemplate
  | unknownTemplate (name : String)
  | unexpectedKey (name : String)
  | notText (key : String)
  | valuesNotList
  | valueNotText
  | childrenNotList
  | noChild
  | noOperator
deriving DecidableEq, Repr

/-- The wording of a cause. -/
def ShapeReason.message : ShapeReason → String
  | .notObject => "expected an object"
  | .noTemplate => "missing template_id"
  | .unknownTemplate name => "unknown template_id " ++ Text.quoted name
  | .unexpectedKey name => "unexpected key " ++ Text.quoted name
  | .notText key => key ++ " must be a non-empty string"
  | .valuesNotList => "values must be a non-empty array"
  | .valueNotText => "values must contain non-empty strings"
  | .childrenNotList => "children must be a non-empty array"
  | .noChild => "NOT requires child"
  | .noOperator => "LOGICAL_OR_NOT requires op \"OR\" or \"NOT\""

/-- A cause, and the path from the outermost condition to the part at fault. -/
structure ShapeError where
  path : Json.Path
  reason : ShapeReason
deriving DecidableEq, Repr

/-- The wording of a refusal. -/
def ShapeError.message (e : ShapeError) : String :=
  "invalid template expression at " ++ e.path.location ++ ": " ++ e.reason.message

/-- A refusal of a part, seen from the whole. -/
def ShapeError.under (steps : Json.Path) (e : ShapeError) : ShapeError :=
  { e with path := steps ++ e.path }

/-- Refuses the outermost part. -/
def refuse {α : Type} (reason : ShapeReason) : Except ShapeError α := .error ⟨[], reason⟩

/-- Refuses the first key that is not among the allowed ones. -/
def onlyKeys (members : Members) (allowed : List String) : Except ShapeError Unit :=
  match members.find? fun m => !allowed.contains m.1 with
  | some m => refuse (.unexpectedKey m.1)
  | none => .ok ()

/-- A text that is not empty. -/
def filledText? (v : Json) : Option String := v.text?.filter fun s => !s.isEmpty

/-- The text of a key. -/
def textOf (members : Members) (key : String) : Except ShapeError String :=
  match (Members.get? members key).bind filledText? with
  | some s => .ok s
  | none => refuse (.notText key)

/-- Texts from left to right. -/
def textsOf : List Json → Except ShapeError (List String)
  | [] => .ok []
  | v :: rest =>
    match filledText? v with
    | some s => do return s :: (← textsOf rest)
    | none => refuse .valueNotText

/-- The texts of the key `values`, at least one. -/
def valuesOf (members : Members) : Except ShapeError (List String) :=
  match (Members.get? members "values").bind Json.items? with
  | some (v :: rest) => textsOf (v :: rest)
  | _ => refuse .valuesNotList

mutual

/-- The condition of a document, or its first part that is none. -/
def ofJson : Json → Except ShapeError Condition
  | .object members =>
    match (Members.get? members "template_id").bind Json.text? with
    | none => refuse .noTemplate
    | some name =>
      match TemplateId.ofText? name with
      | none => refuse (.unknownTemplate name)
      | some .fieldEq => do
        onlyKeys members ["template_id", "field_path", "value"]
        let path ← textOf members "field_path"
        return .fieldEq path (← textOf members "value")
      | some .fieldIn => do
        onlyKeys members ["template_id", "field_path", "values"]
        let path ← textOf members "field_path"
        return .fieldIn path (← valuesOf members)
      | some .fieldExists => do
        onlyKeys members ["template_id", "field_path"]
        return .fieldExists (← textOf members "field_path")
      | some .setIntersects => do
        onlyKeys members ["template_id", "field_path", "values"]
        let path ← textOf members "field_path"
        return .setIntersects path (← valuesOf members)
      | some .windowMatch => do
        onlyKeys members ["template_id"]
        return .windowMatch
      | some .logicalAnd => do
        onlyKeys members ["template_id", "children"]
        return .all (← childrenOf members)
      | some .logicalOrNot =>
        match (Members.get? members "op").bind Json.text? with
        | some "OR" => do
          onlyKeys members ["template_id", "op", "children"]
          return .any (← childrenOf members)
        | some "NOT" => do
          onlyKeys members ["template_id", "op", "child"]
          return .not (← childOf members)
        | _ => refuse .noOperator
  | _ => refuse .notObject

/-- The condition of the key `child`. -/
def childOf : List (String × Json) → Except ShapeError Condition
  | [] => refuse .noChild
  | (k, v) :: rest =>
    if k = "child" then (ofJson v).mapError (.under [.key "child"]) else childOf rest

/-- The conditions of the key `children`, at least one. -/
def childrenOf : List (String × Json) → Except ShapeError (List Condition)
  | [] => refuse .childrenNotList
  | (k, .array items) :: rest =>
    if k = "children" then
      if items.isEmpty then refuse .childrenNotList else ofItems 0 items
    else childrenOf rest
  | (k, _) :: rest => if k = "children" then refuse .childrenNotList else childrenOf rest

/-- Conditions from left to right; the first of them stands at the given index. -/
def ofItems (index : Nat) : List Json → Except ShapeError (List Condition)
  | [] => .ok []
  | v :: rest => do
    let c ← (ofJson v).mapError (.under [.key "children", .index index])
    return c :: (← ofItems (index + 1) rest)

end

end ControlPlane.Condition
