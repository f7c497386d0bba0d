import ControlPlane.Yaml.Document

/-!
# Files that hold the tables of a constitution

The file is a YAML mapping with the two tables as sequences of scalars. An entry is the text of its
scalar, whatever that stands for. Fields are visited in the order of the file and the first problem
counts; a text that goes wrong, or holds more than one document, is noticed after what can be read
of the first document.

## Main definitions

* `Constitution.TableFile` : the tables.
* `Constitution.TableFile.ofText` : reads a file.
* `Constitution.TableFile.Fault` : why a text is no such file, with the wording.
-/

namespace ControlPlane.Constitution

open Yaml

/-- The tables of a file. -/
structure TableFile where
  actionCodes : List String
  inputPaths : List String
deriving DecidableEq, Repr

namespace TableFile

/-- A place in the file. A table whose name is an alias has no name in messages. -/
inductive Place where
  | file
  | table (name : Option String)
  | entry (name : Option String) (index : Nat)
deriving DecidableEq, Repr

/-- The wording of a place, in front of a problem. -/
def Place.lead : Place → String
  | .file => ""
  | .table name => name.getD "?" ++ ": "
  | .entry name index => name.getD "?" ++ "[" ++ toString index ++ "]: "

/-- Why a text is no file of tables. -/
inductive Fault where
  | malformed (e : Malformed)
  | severalDocuments
  | mismatch (place : Place) (cause : Wire.Mismatch) (mark : Mark)
deriving DecidableEq, Repr

/-- The wording of a fault. The start of the text is not worth mentioning. -/
def Fault.message : Fault → String
  | .malformed e => e.message
  | .severalDocuments =>
    "deserializing from YAML containing more than one document is not supported"
  | .mismatch place cause mark =>
    place.lead ++ cause.message ++ if mark.isStart then "" else " at " ++ mark.text

/-- The parts of a document and the places where they start. -/
abbrev Parts := List (Part × Mark)

/-- The fault of a document whose parts end too early. -/
def cutOff {α : Type} (d : Document) : Except Fault α :=
  match d.fault with
  | some e => .error (.malformed e)
  | none => .error .severalDocuments

/-- Refuses a part where something else is wanted. -/
def refusePart {α : Type} (d : Document) (place : Place) (wanted : String) : Parts → Except Fault α
  | [] => cutOff d
  | (part, mark) :: _ =>
    let found := match part with
      | .scalar s => s.mismatch wanted
      | .sequenceStart | .sequenceEnd => .wrongType .sequence wanted
      | _ => .wrongType .map wanted
    .error (.mismatch place found mark)

/-- The text of the scalar that stands next, and the place of it. -/
def readText (d : Document) (place : Place) (wanted : String) (parts : Parts) :
    Except Fault (String × Mark) :=
  match d.resolve parts with
  | (.scalar s, mark) :: _ => .ok (s.text, mark)
  | parts => refusePart d place wanted parts

/-- The entries of a table, up to the end of the sequence. -/
def readEntries (d : Document) (name : Option String) : (index : Nat) → Parts →
    Except Fault (List String × Parts)
  | _, [] => cutOff d
  | _, (.sequenceEnd, _) :: rest => .ok ([], rest)
  | index, part :: rest => do
    let (entry, _) ← readText d (.entry name index) "a string" (part :: rest)
    let (entries, rest) ← readEntries d name (index + 1) rest
    return (entry :: entries, rest)

/-- A table: a sequence, or nothing. -/
def readTable (d : Document) (name : Option String) (parts : Parts) :
    Except Fault (List String × Parts) :=
  match d.resolve parts with
  | (.sequenceStart, _) :: target => do
    let (entries, rest) ← readEntries d name 0 target
    return (entries, if parts.head?.map Prod.fst == some .sequenceStart then rest else parts.drop 1)
  | (.scalar s, mark) :: target =>
    if s.plain && s.text.isEmpty then .ok ([], parts.drop 1)
    else refusePart d (.table name) "a sequence" ((.scalar s, mark) :: target)
  | target => refusePart d (.table name) "a sequence" target

/-- The names of the tables. -/
def fieldNames : List String := ["action_codes", "allowed_input_paths"]

/-- The fields of a mapping that starts at `start`, in the order of the file. -/
def readFields (d : Document) (start : Mark) : (fuel : Nat) → List (String × List String) → Parts →
    Except Fault (List (String × List String))
  | 0, _, _ | _, _, [] => cutOff d
  | _, fields, (.mappingEnd, _) :: _ => .ok fields
  | fuel + 1, fields, key :: rest => do
    let (name, mark) ← readText d .file "field identifier" (key :: rest)
    if !fieldNames.contains name then
      throw (.mismatch .file (.unknownField name fieldNames) mark)
    if (fields.lookup name).isSome then
      throw (.mismatch .file (.duplicateField name) start)
    let shown := match key.1 with
      | .scalar _ => some name
      | _ => none
    let (entries, rest) ← readTable d shown rest
    readFields d start fuel ((name, entries) :: fields) rest

/-- The table of a name among the fields of a mapping that starts at `start`. -/
def field (start : Mark) (fields : List (String × List String)) (name : String) :
    Except Fault (List String) :=
  match fields.lookup name with
  | some entries => .ok entries
  | none => .error (.mismatch .file (.missingField name) start)

/-- The tables among the fields of a mapping that starts at `start`. -/
def ofFields (start : Mark) (fields : List (String × List String)) : Except Fault TableFile := do
  return ⟨← field start fields "action_codes", ← field start fields "allowed_input_paths"⟩

/-- The tables of a document. An empty document has no fields. -/
def ofDocument (d : Document) : Except Fault TableFile := do
  match d.resolve d.parts with
  | (.mappingStart, start) :: rest =>
    ofFields start (← readFields d start d.parts.length [] rest)
  | (.nothing, start) :: _ => ofFields start []
  | (.scalar s, start) :: rest =>
    if s.plain && s.text.isEmpty then ofFields start []
    else refusePart d .file "struct ConstitutionFile" ((.scalar s, start) :: rest)
  | parts => refusePart d .file "struct ConstitutionFile" parts

/-- The tables of a text. -/
def ofText (text : String) : Except Fault TableFile := do
  let d := Document.ofText text
  let tables ← ofDocument d
  match d.fault with
  | some e => throw (.malformed e)
  | none => if d.followed then throw .severalDocuments else return tables

end TableFile

end ControlPlane.Constitution
