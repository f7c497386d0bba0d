import ControlPlane.Wire.Source

/-!
# Subjects

A verdict or a problem state is about a place: a project, a group, a plot or a block. Rules never
look inside a subject; it is carried through as it came.

## Main definitions

* `Subject` : the four optional names.
* `Subject.record` : how a subject is read.
* `Subject.members`, `Subject.toJson` : the document form, which omits absent names.
-/

namespace ControlPlane

/-- What a verdict or a problem state is about. A good subject has one name at least. -/
structure Subject where
  project : Option String
  group : Option String
  plot : Option String
  block : Option String
deriving DecidableEq, Repr, Inhabited

namespace Subject

open Wire (Field Record Source)

/-- No name at all. -/
def empty : Subject := ⟨none, none, none, none⟩

/-- A subject with a project and a group. -/
def ofProjectGroup (project group : String) : Subject := ⟨some project, some group, none, none⟩

/-- Whether no name is set. -/
def isEmpty (s : Subject) : Bool :=
  s.project.isNone && s.group.isNone && s.plot.isNone && s.block.isNone

/-- The present names in the order of declaration. -/
def members (s : Subject) : List (String × Json) :=
  let named (key : String) (name : Option String) : List (String × Json) :=
    name.toList.map fun text => (key, .string text)
  named "projectId" s.project ++ named "groupId" s.group ++ named "plotId" s.plot ++
    named "blockId" s.block

/-- The document form. -/
def toJson (s : Subject) : Json := .ofMembers s.members

/-- How a subject is read. -/
def record {m : Type → Type} [Source m] : Record m Subject where
  name := "SubjectRef"
  blank := empty
  closed := true
  fields := [
    ⟨"projectId", false, fun s => (fun n => { s with project := n }) <$> name⟩,
    ⟨"groupId", false, fun s => (fun n => { s with group := n }) <$> name⟩,
    ⟨"plotId", false, fun s => (fun n => { s with plot := n }) <$> name⟩,
    ⟨"blockId", false, fun s => (fun n => { s with block := n }) <$> name⟩]
where
  /-- Reads a name, which may be absent. -/
  name {m : Type → Type} [Source m] : m (Option String) := Source.nullable Source.text

/-- Reads a subject. -/
def read {m : Type → Type} [Source m] : m Subject := Source.record record

end Subject

end ControlPlane
