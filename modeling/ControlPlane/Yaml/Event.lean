import ControlPlane.Yaml.Scalar
import ControlPlane.Yaml.Token.Stream

/-!
# Events of a YAML document

An event is a scalar, an alias or one end of a collection. The grammar is read with a stack of what
is expected: each step takes the top of the stack, looks at the next token, and puts in its place
what is expected then. A document that goes wrong keeps the events that were read before.

## Main definitions

* `Yaml.Event` : the events, with the places where they start.
* `Yaml.Expected` : what the grammar expects next.
* `Yaml.Expected.step` : the grammar.
* `Yaml.Progress.ofStream` : the events of the first document of a stream.
-/

namespace ControlPlane.Yaml

/-- What an event says; scalars and collections may have an anchor. -/
inductive EventKind where
  | scalar (anchor : Option String) (value : Scalar)
  | alias (name : String)
  | sequenceStart (anchor : Option String)
  | sequenceEnd
  | mappingStart (anchor : Option String)
  | mappingEnd
deriving DecidableEq, Repr

/-- An event and the place where it starts. -/
structure Event where
  kind : EventKind
  mark : Mark
deriving DecidableEq, Repr

/-- What the grammar expects next. Collections keep the place where they start. -/
inductive Expected where
  /-- The start of a document. -/
  | document
  /-- The node behind a mark between documents. -/
  | content
  /-- The mark behind a document, which may be absent. -/
  | documentEnd
  /-- A node. -/
  | node (inBlock indentless : Bool)
  | blockEntry (collection : Mark)
  | indentlessEntry
  | blockKey (collection : Mark)
  | blockValue (collection : Mark)
  | flowEntry (collection : Mark) (first : Bool)
  /-- The parts of a mapping of one pair inside a flow sequence. -/
  | pairKey
  | pairValue
  | pairEnd
  | flowKey (collection : Mark) (first : Bool)
  | flowValue (collection : Mark)
  /-- The value of a key without a colon. -/
  | noFlowValue (collection : Mark)
deriving DecidableEq, Repr

/-- What is known in the course of reading. -/
structure Progress where
  stream : TokenStream
  /-- The tag handles of the document and what they mean. -/
  handles : List (String × String)
  /-- The events in reverse. -/
  events : List Event

/-- A step of reading, which may fail and keeps the progress made before. -/
abbrev EventReader := ExceptT Malformed (StateM Progress)

namespace EventReader

/-- The next token. -/
def peek : EventReader Token := do
  match (← get).stream.peek with
  | .ok token => return token
  | .error e => throw e

/-- Passes over the next token. -/
def skip : EventReader Unit := modify fun p => { p with stream := p.stream.tail }

/-- Adds an event. -/
def emit (kind : EventKind) (mark : Mark) : EventReader Unit :=
  modify fun p => { p with events := ⟨kind, mark⟩ :: p.events }

/-- Adds a scalar without text. -/
def emitEmpty (mark : Mark) : EventReader Unit := emit (.scalar none ⟨none, "", true⟩) mark

/-- Refuses the document at a token. -/
def fail {α : Type} (within : Option (Context × Mark)) (cause : Problem) (token : Token) :
    EventReader α :=
  throw (.problem cause token.start within)

end EventReader

open EventReader

/-! ### Nodes -/

/-- What stands in front of a node. -/
structure NodeProperties where
  anchor : Option String
  tag : Option (Token × String × String)
  /-- The place of the first property. -/
  start : Option Mark

/-- The properties of a node: an anchor and a tag, in either order. -/
def readProperties : EventReader NodeProperties := do
  let first ← peek
  match first.kind with
  | .anchor name =>
    skip
    let second ← peek
    match second.kind with
    | .tag handle suffix =>
      skip
      return ⟨some name, some (second, handle, suffix), some first.start⟩
    | _ => return ⟨some name, none, some first.start⟩
  | .tag handle suffix =>
    skip
    let second ← peek
    match second.kind with
    | .anchor name =>
      skip
      return ⟨some name, some (first, handle, suffix), some first.start⟩
    | _ => return ⟨none, some (first, handle, suffix), some first.start⟩
  | _ => return ⟨none, none, none⟩

/-- The tag of a node, with its handle replaced by what that means. -/
def resolveTag (properties : NodeProperties) : EventReader (Option String) := do
  match properties.tag with
  | none => return none
  | some (token, handle, suffix) =>
    if handle.isEmpty then return some suffix
    match (← get).handles.lookup handle with
    | some meaning => return some (meaning ++ suffix)
    | none => fail (properties.start.map (Context.node, ·)) .undefinedTagHandle token

/-- A node that is not an alias: a scalar, or the start of a collection. A node of which only the
properties are there is an empty scalar. The token behind the properties must be there before the
tag is resolved. -/
def readNode (inBlock indentless : Bool) : EventReader (List Expected) := do
  let properties ← readProperties
  let token ← peek
  let tag ← resolveTag properties
  let start := properties.start.getD token.start
  match token.kind with
  | .scalar text plain =>
    skip
    emit (.scalar properties.anchor ⟨tag.filter (· != "!"), text, plain⟩) start
    return []
  | .flowSequenceStart =>
    skip
    emit (.sequenceStart properties.anchor) start
    return [.flowEntry token.start true]
  | .flowMappingStart =>
    skip
    emit (.mappingStart properties.anchor) start
    return [.flowKey token.start true]
  | kind =>
    if indentless && kind == .blockEntry then
      emit (.sequenceStart properties.anchor) start
      return [.indentlessEntry]
    else if inBlock && kind == .blockSequenceStart then
      skip
      emit (.sequenceStart properties.anchor) start
      return [.blockEntry token.start]
    else if inBlock && kind == .blockMappingStart then
      skip
      emit (.mappingStart properties.anchor) start
      return [.blockKey token.start]
    else if properties.start.isSome then
      emit (.scalar properties.anchor ⟨tag, "", true⟩) start
      return []
    else
      fail (some (if inBlock then .blockNode else .flowNode, start)) .nodeExpected token

/-! ### Collections -/

/-- Expects a node and then `next`. One of the tokens `absent` says that there is no node: an empty
scalar stands at `mark`, or at that token. -/
def readItem (inBlock indentless : Bool) (absent : List TokenKind) (mark : Option Mark)
    (next : Expected) : EventReader (List Expected) := do
  let token ← peek
  if absent.contains token.kind then
    emitEmpty (mark.getD token.start)
    return [next]
  return [.node inBlock indentless, next]

/-- Passes over a comma in front of an item that is not the first. -/
def readComma (first : Bool) (closing : TokenKind) (within : Context × Mark) (cause : Problem) :
    EventReader Unit := do
  let token ← peek
  if first || token.kind == closing then return
  if token.kind != .flowEntry then fail (some within) cause token
  skip

/-- An entry of a flow sequence or its end. A key in front of an entry makes it a mapping. -/
def readFlowEntry (collection : Mark) (first : Bool) : EventReader (List Expected) := do
  readComma first .flowSequenceEnd (.flowSequence, collection) .commaOrBracketExpected
  let token ← peek
  match token.kind with
  | .flowSequenceEnd =>
    skip
    emit .sequenceEnd token.start
    return []
  | .key =>
    skip
    emit (.mappingStart none) token.start
    return [.pairKey, .flowEntry collection false]
  | _ => return [.node false false, .flowEntry collection false]

/-- A key of a flow mapping or its end. -/
def readFlowKey (collection : Mark) (first : Bool) : EventReader (List Expected) := do
  readComma first .flowMappingEnd (.flowMapping, collection) .commaOrBraceExpected
  let token ← peek
  match token.kind with
  | .flowMappingEnd =>
    skip
    emit .mappingEnd token.start
    return []
  | .key =>
    skip
    readItem false false [.value, .flowEntry, .flowMappingEnd] none (.flowValue collection)
  | _ => return [.node false false, .noFlowValue collection]

/-- The value of a key in a flow collection; without a colon it is empty. -/
def readFlowValue (closing : TokenKind) (next : Expected) : EventReader (List Expected) := do
  let token ← peek
  if token.kind != .value then
    emitEmpty token.start
    return [next]
  skip
  readItem false false [.flowEntry, closing] none next

/-- The key of a pair inside a flow sequence. When it is missing, the token in its place is passed
over. -/
def readPairKey : EventReader (List Expected) := do
  let token ← peek
  if [.value, .flowEntry, .flowSequenceEnd].contains token.kind then
    skip
    emitEmpty token.finish
    return [.pairValue, .pairEnd]
  return [.node false false, .pairValue, .pairEnd]

/-- An entry of a block sequence or its end. -/
def readBlockEntry (collection : Mark) : EventReader (List Expected) := do
  let token ← peek
  match token.kind with
  | .blockEntry =>
    skip
    readItem true false [.blockEntry, .blockEnd] (some token.finish) (.blockEntry collection)
  | .blockEnd =>
    skip
    emit .sequenceEnd token.start
    return []
  | _ => fail (some (.blockCollection, collection)) .dashExpected token

/-- An entry of a sequence that is not indented, or its end. -/
def readIndentlessEntry : EventReader (List Expected) := do
  let token ← peek
  if token.kind == .blockEntry then
    skip
    readItem true false [.blockEntry, .key, .value, .blockEnd] (some token.finish) .indentlessEntry
  else
    emit .sequenceEnd token.start
    return []

/-- A key of a block mapping or its end. -/
def readBlockKey (collection : Mark) : EventReader (List Expected) := do
  let token ← peek
  match token.kind with
  | .key =>
    skip
    readItem true true [.key, .value, .blockEnd] (some token.finish) (.blockValue collection)
  | .blockEnd =>
    skip
    emit .mappingEnd token.start
    return []
  | _ => fail (some (.blockMapping, collection)) .keyExpected token

/-- The value of a key in a block mapping; without a colon it is empty. -/
def readBlockValue (collection : Mark) : EventReader (List Expected) := do
  let token ← peek
  if token.kind != .value then
    emitEmpty token.start
    return [.blockKey collection]
  skip
  readItem true true [.key, .value, .blockEnd] (some token.finish) (.blockKey collection)

/-! ### Documents -/

/-- The directives in front of a document; `versioned` says that a version has been seen. -/
def readDirectives : (fuel : Nat) → (versioned : Bool) → EventReader Unit
  | 0, _ => return
  | fuel + 1, versioned => do
    let token ← peek
    match token.kind with
    | .version major minor =>
      if versioned then fail none .duplicateVersion token
      if major != 1 || (minor != 1 && minor != 2) then fail none .incompatible token
      skip
      readDirectives fuel true
    | .tagHandle handle meaning =>
      if ((← get).handles.lookup handle).isSome then fail none .duplicateTagHandle token
      skip
      modify fun p => { p with handles := (handle, meaning) :: p.handles }
      readDirectives fuel versioned
    | _ => return

/-- The start of the first document. A text that holds none has no events. -/
def readDocument : EventReader (List Expected) := do
  let token ← peek
  match token.kind with
  | .streamEnd => return []
  | .version _ _ | .tagHandle _ _ | .documentStart =>
    readDirectives (← get).stream.tokens.length false
    addDefaultHandles
    let token ← peek
    if token.kind != .documentStart then fail none .documentStartExpected token
    skip
    return [.content, .documentEnd]
  | _ =>
    addDefaultHandles
    return [.node true false, .documentEnd]
where
  /-- Adds the handles that every document has, unless it says otherwise. -/
  addDefaultHandles : EventReader Unit :=
    modify fun p => { p with handles := p.handles ++ [("!", "!"), ("!!", "tag:yaml.org,2002:")] }

/-- The node behind a mark between documents, which may be absent. -/
def readContent : EventReader (List Expected) := do
  let token ← peek
  match token.kind with
  | .version _ _ | .tagHandle _ _ | .documentStart | .documentEnd | .streamEnd =>
    emitEmpty token.start
    return []
  | _ => return [.node true false]

/-- The mark behind a document, if it is there. -/
def readDocumentEnd : EventReader (List Expected) := do
  if (← peek).kind == .documentEnd then skip
  return []

/-- Reads what is expected up to the next event at least, and what takes its place. -/
def Expected.step : Expected → EventReader (List Expected)
  | .document => readDocument
  | .content => readContent
  | .documentEnd => readDocumentEnd
  | .node inBlock indentless => do
    let token ← peek
    match token.kind with
    | .alias name =>
      skip
      emit (.alias name) token.start
      return []
    | _ => readNode inBlock indentless
  | .blockEntry collection => readBlockEntry collection
  | .indentlessEntry => readIndentlessEntry
  | .blockKey collection => readBlockKey collection
  | .blockValue collection => readBlockValue collection
  | .flowEntry collection first => readFlowEntry collection first
  | .pairKey => readPairKey
  | .pairValue => readFlowValue .flowSequenceEnd .pairEnd
  | .pairEnd => do
    emit .mappingEnd (← peek).start
    return []
  | .flowKey collection first => readFlowKey collection first
  | .flowValue collection => readFlowValue .flowMappingEnd (.flowKey collection false)
  | .noFlowValue collection => do
    emitEmpty (← peek).start
    return [.flowKey collection false]

/-- Reads until nothing is expected any more. -/
def readExpected : (fuel : Nat) → List Expected → EventReader Unit
  | 0, _ | _, [] => return
  | fuel + 1, expected :: rest => do readExpected fuel ((← expected.step) ++ rest)

/-- The progress at the end of the first document of a stream, and how it goes wrong. Every token
takes at most eight steps. -/
def Progress.ofStream (stream : TokenStream) : Except Malformed Unit × Progress :=
  ((readExpected (8 * stream.tokens.length + 8) [.document]).run).run ⟨stream, [], []⟩

end ControlPlane.Yaml
