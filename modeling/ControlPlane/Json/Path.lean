import ControlPlane.Json.Basic

/-!
# Places in a JSON value

A path leads from a value to one of its parts by object keys and array indices.

## Main definitions

* `Json.Step`, `Json.Path` : one step down and a sequence of them.
* `Json.at?` : the part that a path leads to.
* `Json.Path.pointer` : the path as a JSON pointer.
* `Json.Path.location` : the pointer, with a name for the whole value.
-/

namespace ControlPlane.Json

/-- One step down into a value. -/
inductive Step where
  | key (name : String)
  | index (position : Nat)
deriving DecidableEq, Repr

/-- Steps from a value to one of its parts. -/
abbrev Path := List Step

/-- The part of a value one step down. -/
def step? : Json → Step → Option Json
  | .object members, .key name => Members.get? members name
  | .array items, .index position => items[position]?
  | _, _ => none

/-- The part of a value that a path leads to. -/
def at? (v : Json) : Path → Option Json
  | [] => some v
  | step :: rest => (v.step? step).bind fun part => part.at? rest

/-- A step as a reference token: a tilde is written `~0` and a slash `~1`. -/
def Step.token : Step → String
  | .key name =>
    String.join (name.toList.map fun c =>
      if c = '~' then "~0" else if c = '/' then "~1" else c.toString)
  | .index position => toString position

/-- The JSON pointer of a path; the whole value has the empty pointer. -/
def Path.pointer (path : Path) : String := String.join (path.map fun step => "/" ++ step.token)

/-- What messages call the whole document. -/
def rootLocation : String := "(root)"

/-- The pointer of a path, or the name of the whole document. -/
def Path.location (path : Path) : String :=
  if path.isEmpty then rootLocation else path.pointer

end ControlPlane.Json
