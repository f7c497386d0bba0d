import ControlPlane.Constitution.Basic
import ControlPlane.Snapshot.InputPath

/-!
# Snapshots

A snapshot maps input paths to values, and rules read nothing else. It is taken from the three input
objects at the input paths of a constitution, so it holds no other path; nothing in it is `null`.

## Main definitions

* `Snapshot` : the map, with `Snapshot.get?`.
* `Snapshot.project` : the snapshot of input objects.
* `Snapshot.ofPairs` : the snapshot of given paths and values.
-/

namespace ControlPlane

/-- The values of input paths, in the order of the paths. -/
structure Snapshot where
  entries : Members

namespace Snapshot

/-- The snapshot of nothing. -/
def empty : Snapshot := ⟨[]⟩

/-- The value of a path. -/
def get? (s : Snapshot) (path : String) : Option Json := Members.get? s.entries path

/-- Whether a path has a value. -/
def contains (s : Snapshot) (path : String) : Bool := (s.get? path).isSome

/-- The number of paths with a value. -/
def size (s : Snapshot) : Nat := s.entries.length

/-- Whether no path has a value. -/
def isEmpty (s : Snapshot) : Bool := s.entries.isEmpty

/-- Gives a path its value; `null` is dropped. -/
def insert (path : String) (value : Json) (s : Snapshot) : Snapshot :=
  if value.isNull then s else ⟨Members.insert path value s.entries⟩

/-- What the input paths of a constitution lead to. -/
def project (c : Constitution) (inputs : InputPath.Inputs) : Snapshot :=
  ⟨c.inputPaths.names.filterMap fun path =>
    (InputPath.resolve? inputs path).map fun value => (path, value)⟩

/-- Adds pairs from left to right, unless one has a path that is no input path. -/
def insertPairs (c : Constitution) : List (String × Json) → Snapshot →
    Except Constitution.Refusal Snapshot
  | [], s => .ok s
  | (path, value) :: rest, s => do
    c.checkInputPath path
    insertPairs c rest (s.insert path value)

/-- The snapshot of pairs. Of several values for one path the last counts that is not `null`. -/
def ofPairs (c : Constitution) (pairs : List (String × Json)) :
    Except Constitution.Refusal Snapshot :=
  insertPairs c pairs empty

end Snapshot

end ControlPlane
