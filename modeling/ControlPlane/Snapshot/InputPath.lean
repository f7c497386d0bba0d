import ControlPlane.Json.Basic

/-!
# Input paths

An input path names a part of one of the three input objects by segments between points. A plain
segment goes down to a member of an object. A segment that ends in a pair of brackets goes down to a
list: as the last segment it takes the list whole, before other segments it takes what these lead to
in every item.

## Main definitions

* `InputPath.segments` : the texts between the points of a path.
* `InputPath.Root`, `InputPath.Segment` : what the first segment and the others stand for.
* `InputPath.Inputs` : the three input objects.
* `InputPath.resolve?` : what a path leads to.
-/

namespace ControlPlane.InputPath

/-- The runs of characters between the points. -/
def runs : List Char → List (List Char)
  | [] => [[]]
  | c :: rest =>
    if c = '.' then [] :: runs rest
    else match runs rest with
      | [] => [[c]]
      | run :: others => (c :: run) :: others

/-- The texts between the points of a path, at least one. -/
def segments (path : String) : List String := (runs path.toList).map String.ofList

/-- The three objects that paths start from. -/
inductive Root where
  | problemState
  | uncertaintyEnvelope
  | permissionSet
deriving DecidableEq, Repr

/-- The name of a root in paths. -/
def Root.text : Root → String
  | .problemState => "problem_state"
  | .uncertaintyEnvelope => "uncertainty_envelope"
  | .permissionSet => "permission_set"

/-- The root that a segment names. -/
def Root.ofText? (s : String) : Option Root :=
  [Root.problemState, .uncertaintyEnvelope, .permissionSet].find? fun r => r.text == s

/-- A segment behind the root. -/
inductive Segment where
  | member (name : String)
  | list (name : String)
deriving DecidableEq, Repr

/-- The segment that a text stands for. -/
def Segment.ofText (s : String) : Segment :=
  match s.toList.reverse with
  | ']' :: '[' :: name => .list (String.ofList name.reverse)
  | _ => .member s

/-- What segments lead to. A `null` at the end counts as nothing; an item of a list from which the
other segments lead to nothing stands as `null`. -/
def descend : List Segment → Json → Option Json
  | [], v => if v.isNull then none else some v
  | .member name :: rest, v => (v.get? name).bind (descend rest)
  | .list name :: rest, v => do
    let items ← (← v.get? name).items?
    return .array
      (if rest.isEmpty then items else items.map fun item => (descend rest item).getD .null)

/-- The three input objects. -/
structure Inputs where
  problemState : Json
  uncertaintyEnvelope : Json
  permissionSet : Json

/-- The object that a root names. -/
def Inputs.at (inputs : Inputs) : Root → Json
  | .problemState => inputs.problemState
  | .uncertaintyEnvelope => inputs.uncertaintyEnvelope
  | .permissionSet => inputs.permissionSet

/-- What a path leads to in the input objects. -/
def resolve? (inputs : Inputs) (path : String) : Option Json :=
  match segments path with
  | [] => none
  | first :: rest => do descend (rest.map .ofText) (inputs.at (← Root.ofText? first))

end ControlPlane.InputPath
