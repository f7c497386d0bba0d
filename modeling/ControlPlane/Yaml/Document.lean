import ControlPlane.Yaml.Event

/-!
# The first document of a YAML text

A document is a list of parts, with aliases referring to anchors by number. An anchor takes for its
number how many names are known so far, so a name that comes back takes the number of the next new
one, and the last anchor of a number counts.

## Main definitions

* `Yaml.Part`, `Yaml.Document` : documents.
* `Yaml.Document.ofText` : the first document of a text, as far as it can be read.
* `Yaml.Document.resolve` : goes to the anchor of an alias.
-/

namespace ControlPlane.Yaml

/-- A part of a document. -/
inductive Part where
  | scalar (value : Scalar)
  | alias (number : Nat)
  | sequenceStart
  | sequenceEnd
  | mappingStart
  | mappingEnd
  /-- The only part of a text without documents. -/
  | nothing
deriving DecidableEq, Repr

/-- The first document of a text. -/
structure Document where
  /-- The parts and the places where they start. -/
  parts : List (Part × Mark)
  /-- The numbers of the anchors and the positions of their parts, the last anchor first. -/
  anchors : List (Nat × Nat)
  /-- What goes wrong behind the parts. -/
  fault : Option Malformed
  /-- Whether the document is followed by another. -/
  followed : Bool

namespace Document

/-- A document that is read up to some event. -/
structure Draft where
  /-- The names of anchors with their numbers. -/
  names : List (String × Nat)
  anchors : List (Nat × Nat)
  /-- The parts in reverse. -/
  parts : List (Part × Mark)

namespace Draft

/-- Gives a name to the next part. -/
def name (anchor : Option String) (d : Draft) : Draft :=
  match anchor with
  | none => d
  | some name =>
    { d with
      names := (name, d.names.length) :: d.names.filter (·.1 != name)
      anchors := (d.names.length, d.parts.length) :: d.anchors }

/-- Adds a part. -/
def add (part : Part) (mark : Mark) (d : Draft) : Draft :=
  { d with parts := (part, mark) :: d.parts }

/-- Adds the part of an event. -/
def addEvent (e : Event) (d : Draft) : Except Malformed Draft :=
  match e.kind with
  | .scalar anchor value => .ok ((d.name anchor).add (.scalar value) e.mark)
  | .sequenceStart anchor => .ok ((d.name anchor).add .sequenceStart e.mark)
  | .sequenceEnd => .ok (d.add .sequenceEnd e.mark)
  | .mappingStart anchor => .ok ((d.name anchor).add .mappingStart e.mark)
  | .mappingEnd => .ok (d.add .mappingEnd e.mark)
  | .alias name =>
    match d.names.lookup name with
    | some number => .ok (d.add (.alias number) e.mark)
    | none => .error (.problem .unknownAnchor e.mark none)

/-- Adds the parts of events up to an alias without anchor. -/
def addEvents (d : Draft) : List Event → Draft × Option Malformed
  | [] => (d, none)
  | e :: rest =>
    match d.addEvent e with
    | .ok d => addEvents d rest
    | .error fault => (d, some fault)

end Draft

/-- Whether anything but marks between documents is left. -/
def isFollowed (stream : TokenStream) : Bool :=
  !(stream.tokens.all (·.kind == .documentEnd) && stream.ending.isOk)

/-- The first document of a text. -/
def ofText (text : String) : Document :=
  let (outcome, progress) := Progress.ofStream (.ofText text)
  let (draft, unknown) := Draft.addEvents ⟨[], [], []⟩ progress.events.reverse
  let fault := unknown <|> match outcome with
    | .ok () => none
    | .error e => some e
  let parts := match draft.parts, fault, progress.stream.ending with
    | [], none, .ok mark => [(.nothing, mark)]
    | parts, _, _ => parts.reverse
  ⟨parts, draft.anchors, fault, isFollowed progress.stream⟩

/-- The parts from a position on, or from the anchor on if an alias stands there. -/
def resolve (d : Document) (parts : List (Part × Mark)) : List (Part × Mark) :=
  match parts with
  | (.alias number, _) :: _ => d.parts.drop ((d.anchors.lookup number).getD d.parts.length)
  | _ => parts

end Document

end ControlPlane.Yaml
