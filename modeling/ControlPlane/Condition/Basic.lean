import ControlPlane.Json.Basic
import ControlPlane.KeySet

/-!
# Conditions of rules

A rule fires when its condition holds. Conditions form a closed language of eight shapes under seven
template ids; they compare texts and test for presence, and there is no arithmetic in them.
`Condition.toJson` gives the document form, with a fixed set of keys for each shape.

## Main definitions

* `TemplateId` : the ids, with `TemplateId.text` and `TemplateId.ofText?`.
* `Condition` : the conditions.
* `Condition.template` : the id of a condition's outermost shape.
* `Condition.fieldPaths` : every path that a condition reads.
* `Condition.toJson` : the document form.
-/

namespace ControlPlane

/-- The names that documents use for the shapes of conditions. -/
inductive TemplateId where
  | fieldEq
  | fieldIn
  | fieldExists
  | setIntersects
  | windowMatch
  | logicalAnd
  | logicalOrNot
deriving DecidableEq, Repr, Inhabited

namespace TemplateId

/-- Every id, in the order in which messages list them. -/
def all : List TemplateId :=
  [.fieldEq, .fieldIn, .fieldExists, .setIntersects, .windowMatch, .logicalAnd, .logicalOrNot]

/-- The id as it stands in documents. -/
def text : TemplateId → String
  | .fieldEq => "FIELD_EQ"
  | .fieldIn => "FIELD_IN"
  | .fieldExists => "FIELD_EXISTS"
  | .setIntersects => "SET_INTERSECTS"
  | .windowMatch => "WINDOW_MATCH"
  | .logicalAnd => "LOGICAL_AND"
  | .logicalOrNot => "LOGICAL_OR_NOT"

/-- The id that a text names. -/
def ofText? (s : String) : Option TemplateId := all.find? fun t => t.text == s

end TemplateId

/-- When a rule fires. Paths are taken literally from the document. -/
inductive Condition where
  /-- The field holds exactly this text. -/
  | fieldEq (path value : String)
  /-- The field holds one of these texts. -/
  | fieldIn (path : String) (values : List String)
  /-- The field is present. -/
  | fieldExists (path : String)
  /-- The field is a list that shares a text with these. -/
  | setIntersects (path : String) (values : List String)
  /-- The window of the subject agrees with the permitted one. -/
  | windowMatch
  /-- Every one of the conditions holds. -/
  | all (children : List Condition)
  /-- Some of the conditions hold. -/
  | any (children : List Condition)
  /-- The condition does not hold. -/
  | not (child : Condition)
deriving Inhabited

namespace Condition

/-- The id of the outermost shape. Disjunction and negation share one. -/
def template : Condition → TemplateId
  | .fieldEq .. => .fieldEq
  | .fieldIn .. => .fieldIn
  | .fieldExists _ => .fieldExists
  | .setIntersects .. => .setIntersects
  | .windowMatch => .windowMatch
  | .all _ => .logicalAnd
  | .any _ | .not _ => .logicalOrNot

mutual

/-- The paths written in a condition, from left to right. -/
def paths : Condition → List String
  | .fieldEq path _ | .fieldIn path _ | .fieldExists path | .setIntersects path _ => [path]
  | .windowMatch => []
  | .all children | .any children => pathsOfList children
  | .not child => child.paths

/-- The paths written in several conditions, from left to right. -/
def pathsOfList : List Condition → List String
  | [] => []
  | c :: rest => c.paths ++ pathsOfList rest

end

/-- The set of paths that a condition reads. -/
def fieldPaths (c : Condition) : KeySet := KeySet.ofList c.paths

/-- Texts as a list in a document. -/
def textList (values : List String) : Json := .array (values.map .string)

/-- The member that names the shape. -/
def templateMember (t : TemplateId) : String × Json := ("template_id", .string t.text)

mutual

/-- The document form. Members stand in the order of their keys. -/
def toJson : Condition → Json
  | .fieldEq path value =>
    .object [("field_path", .string path), templateMember .fieldEq, ("value", .string value)]
  | .fieldIn path values =>
    .object [("field_path", .string path), templateMember .fieldIn, ("values", textList values)]
  | .fieldExists path => .object [("field_path", .string path), templateMember .fieldExists]
  | .setIntersects path values =>
    .object [("field_path", .string path), templateMember .setIntersects,
      ("values", textList values)]
  | .windowMatch => .object [templateMember .windowMatch]
  | .all children =>
    .object [("children", .array (toJsonList children)), templateMember .logicalAnd]
  | .any children =>
    .object [("children", .array (toJsonList children)), ("op", .string "OR"),
      templateMember .logicalOrNot]
  | .not child =>
    .object [("child", child.toJson), ("op", .string "NOT"), templateMember .logicalOrNot]

/-- The document forms of several conditions. -/
def toJsonList : List Condition → List Json
  | [] => []
  | c :: rest => c.toJson :: toJsonList rest

end

end Condition

end ControlPlane
