import ControlPlane.Yaml.Token.Basic

/-!
# The tokens of a whole text

Indentation and colons decide where collections start, and a colon does so in hindsight: what stands
in front of it on its line turns out to be a key. So the place of every token that may become a key
is kept, and the tokens that announce the key are put there when the colon is found. When the text
goes wrong, the tokens are good up to the first place that is still open.

## Main definitions

* `Yaml.PossibleKey`, `Yaml.Lexer` : what is known in the course of reading.
* `Yaml.Lexer.next` : the next token.
* `Yaml.TokenStream` : the tokens of a text, and how it ends.
-/

namespace ControlPlane.Yaml

/-- The place of a token that may turn out to be a key. -/
structure PossibleKey where
  /-- Whether nothing but a key may stand there. -/
  required : Bool
  /-- The number of tokens in front of it. -/
  number : Nat
  mark : Mark

/-- What is known in the course of reading. -/
structure Lexer where
  cursor : Cursor
  /-- The column of the innermost block, or -1 outside of all. -/
  indent : Int
  /-- The columns of the blocks around it, the innermost first. -/
  outer : List Int
  /-- The possible key outside of flow collections and in each of them, the innermost first. -/
  keys : List (Option PossibleKey)
  /-- Whether a key may start here. -/
  keyAllowed : Bool
  /-- The tokens in reverse. -/
  tokens : List Token
  /-- What goes wrong behind the text of the cursor, if anything does. -/
  behind : Option Malformed

namespace Lexer

/-- The start of a text. -/
def ofText (text : String) (behind : Option Malformed) : Lexer :=
  ⟨.ofText text, -1, [], [none], true, [], behind⟩

/-- Whether a flow collection is open. -/
def inFlow (l : Lexer) : Bool := 1 < l.keys.length

/-- The current place. -/
def mark (l : Lexer) : Mark := l.cursor.mark

/-- Adds a token without length. -/
def announce (kind : TokenKind) (l : Lexer) : Lexer :=
  { l with tokens := ⟨kind, l.mark, l.mark⟩ :: l.tokens }

/-- Adds a token that ends where a cursor starts, and goes on from there. -/
def emit (kind : TokenKind) (next : Cursor) (l : Lexer) : Lexer :=
  { l with cursor := next, tokens := ⟨kind, l.mark, next.mark⟩ :: l.tokens }

/-- Adds a token behind the first `number` tokens. -/
def insertAt (number : Nat) (token : Token) (l : Lexer) : Lexer :=
  let behind := l.tokens.length - number
  { l with tokens := l.tokens.take behind ++ token :: l.tokens.drop behind }

/-- Refuses a key that turned out to be none although it must. -/
def refuseKey {α : Type} (key : PossibleKey) (mark : Mark) : Except Malformed α :=
  refuse .simpleKey key.mark .colonExpected mark

/-- Gives up a possible key. -/
def dropKey (mark : Mark) : Option PossibleKey → Except Malformed (Option PossibleKey)
  | some key => if key.required then refuseKey key mark else .ok none
  | none => .ok none

/-- Gives up the possible key of the innermost collection. -/
def removeKey (l : Lexer) : Except Malformed Lexer := do
  match l.keys with
  | key :: rest => return { l with keys := (← dropKey l.mark key) :: rest }
  | [] => return l

/-- Notes the current place as that of a possible key, if one may start here. -/
def saveKey (l : Lexer) : Except Malformed Lexer := do
  if !l.keyAllowed then return l
  let l ← l.removeKey
  let key : PossibleKey := ⟨!l.inFlow && l.indent == l.mark.column, l.tokens.length, l.mark⟩
  return { l with keys := some key :: l.keys.drop 1 }

/-- Gives up keys that started on another line or too far back. -/
def dropStaleKeys (l : Lexer) : Except Malformed Lexer := do
  let keys ← l.keys.mapM fun key? =>
    match key? with
    | some key =>
      if key.mark.line < l.mark.line || key.mark.index + 1024 < l.mark.index then
        dropKey l.mark key?
      else .ok key?
    | none => .ok none
  return { l with keys := keys }

/-- Opens a block at a column that is further right, with its token behind the first `number`
tokens. -/
def openBlock (column : Nat) (number : Nat) (kind : TokenKind) (mark : Mark) (l : Lexer) : Lexer :=
  if !l.inFlow && l.indent < column then
    insertAt number ⟨kind, mark, mark⟩ { l with indent := column, outer := l.indent :: l.outer }
  else l

/-- Closes the blocks of a stack that are further right than a column. -/
def closeBlocksOf (column : Int) : List Int → Lexer → Lexer
  | [], l => l
  | indent :: outer, l =>
    if column < l.indent then
      closeBlocksOf column outer { l.announce .blockEnd with indent := indent, outer := outer }
    else l

/-- Closes the blocks that are further right than a column. -/
def closeBlocks (column : Int) (l : Lexer) : Lexer :=
  if l.inFlow then l else closeBlocksOf column l.outer l

/-- Passes over blanks, comments and breaks. Tabs count as blanks only where no key may start. -/
def skipGap : (fuel : Nat) → Lexer → Lexer
  | 0, l => l
  | fuel + 1, l =>
    let c := l.cursor
    let c := if c.mark.column == 0 && c.isAt '\ufeff' then c.advance else c
    let tabs := l.inFlow || !l.keyAllowed
    let c := c.skipWhile fun ch => ch == ' ' || (tabs && ch == '\t')
    let c := if c.isAt '#' then c.skipWhile (!isBreak ·) else c
    if c.atAny isBreak then
      skipGap fuel { l with cursor := c.advanceLine, keyAllowed := l.keyAllowed || !l.inFlow }
    else { l with cursor := c }

/-! ### The kinds of tokens -/

/-- The end of the text. It closes all blocks and counts as the start of a line. -/
def readEnd (l : Lexer) : Except Malformed Lexer := do
  let c := l.cursor
  let c := if c.mark.column == 0 then c
    else { c with mark := { c.mark with line := c.mark.line + 1, column := 0 } }
  let l ← (closeBlocks (-1) { l with cursor := c }).removeKey
  return { l with keyAllowed := false }.announce .streamEnd

/-- A token at the start of a line that belongs to no block. -/
def readOutside (read : Lexer → Except Malformed Lexer) (l : Lexer) : Except Malformed Lexer := do
  let l ← (l.closeBlocks (-1)).removeKey
  read { l with keyAllowed := false }

/-- A bracket that opens a flow collection. -/
def readOpening (kind : TokenKind) (l : Lexer) : Except Malformed Lexer := do
  let l ← l.saveKey
  return { l with keys := none :: l.keys, keyAllowed := true }.emit kind l.cursor.advance

/-- A bracket that closes a flow collection. -/
def readClosing (kind : TokenKind) (l : Lexer) : Except Malformed Lexer := do
  let l ← l.removeKey
  let keys := if l.inFlow then l.keys.drop 1 else l.keys
  return { l with keys := keys, keyAllowed := false }.emit kind l.cursor.advance

/-- A comma. -/
def readComma (l : Lexer) : Except Malformed Lexer := do
  let l ← l.removeKey
  return { l with keyAllowed := true }.emit .flowEntry l.cursor.advance

/-- Opens a block for a dash, a question mark or a colon here, unless it may not start. -/
def startBlock (kind : TokenKind) (refusal : Problem) (l : Lexer) : Except Malformed Lexer :=
  if l.inFlow then .ok l
  else if !l.keyAllowed then .error (.problem refusal l.mark none)
  else .ok (l.openBlock l.mark.column l.tokens.length kind l.mark)

/-- A dash. -/
def readDash (l : Lexer) : Except Malformed Lexer := do
  let l ← (← l.startBlock .blockSequenceStart .blockEntryNotAllowed).removeKey
  return { l with keyAllowed := true }.emit .blockEntry l.cursor.advance

/-- A question mark. -/
def readQuestion (l : Lexer) : Except Malformed Lexer := do
  let l ← (← l.startBlock .blockMappingStart .keyNotAllowed).removeKey
  return { l with keyAllowed := !l.inFlow }.emit .key l.cursor.advance

/-- A colon. What may be a key is one now. -/
def readColon (l : Lexer) : Except Malformed Lexer := do
  match l.keys with
  | some key :: rest =>
    let l := l.insertAt key.number ⟨.key, key.mark, key.mark⟩
    let l := l.openBlock key.mark.column key.number .blockMappingStart key.mark
    return { l with keys := none :: rest, keyAllowed := false }.emit .value l.cursor.advance
  | _ =>
    let l ← l.startBlock .blockMappingStart .valueNotAllowed
    return { l with keyAllowed := !l.inFlow }.emit .value l.cursor.advance

/-- A token that may be a key or stand in front of one. -/
def readNode {α : Type} (read : Cursor → Except Malformed (α × Cursor)) (kind : α → TokenKind)
    (l : Lexer) : Except Malformed Lexer := do
  let l ← l.saveKey
  let (found, next) ← read l.cursor
  return { l with keyAllowed := false }.emit (kind found) next

/-- A plain scalar. If it ends behind a line, a key may start there. -/
def readPlainToken (l : Lexer) : Except Malformed Lexer := do
  let l ← l.saveKey
  let (text, broken, next) ← readPlain l.inFlow l.indent l.cursor
  return { l with keyAllowed := broken }.emit (.scalar text true) next

/-- A block scalar. -/
def readBlockToken (literal : Bool) (l : Lexer) : Except Malformed Lexer := do
  let l ← l.removeKey
  let (text, next) ← readBlock literal l.indent l.cursor
  return { l with keyAllowed := true }.emit (.scalar text false) next

/-- Whether a plain scalar starts here. -/
def atPlain (l : Lexer) : Bool :=
  let c := l.cursor
  !(c.atGapOrEnd || c.atAny fun ch => "-?:,[]\x7b\x7d#&*!|>'\"%@`".contains ch) ||
    (c.isAt '-' && !(c.peek? 1).any isBlank) ||
    (!l.inFlow && (c.isAt '?' || c.isAt ':') && !c.atGapOrEnd 1)

/-- The token that starts here. -/
def readToken (l : Lexer) : Except Malformed Lexer :=
  let c := l.cursor
  let mark (kind : TokenKind) : Lexer → Except Malformed Lexer :=
    readOutside fun l => .ok (l.emit kind (l.cursor.advance 3))
  match c.peek? with
  | none => l.readEnd
  | some ch =>
    if c.mark.column == 0 && ch == '%' then
      l.readOutside fun l => do
        let (token, next) ← readDirective l.cursor
        return { l with cursor := next, tokens := token :: l.tokens }
    else if c.atDocumentMark '-' then mark .documentStart l
    else if c.atDocumentMark '.' then mark .documentEnd l
    else if ch == '[' then l.readOpening .flowSequenceStart
    else if ch == '\x7b' then l.readOpening .flowMappingStart
    else if ch == ']' then l.readClosing .flowSequenceEnd
    else if ch == '\x7d' then l.readClosing .flowMappingEnd
    else if ch == ',' then l.readComma
    else if ch == '-' && c.atGapOrEnd 1 then l.readDash
    else if ch == '?' && (l.inFlow || c.atGapOrEnd 1) then l.readQuestion
    else if ch == ':' && (l.inFlow || c.atGapOrEnd 1) then l.readColon
    else if ch == '*' then l.readNode (readAnchor .alias) .alias
    else if ch == '&' then l.readNode (readAnchor .anchor) .anchor
    else if ch == '!' then l.readNode (readTag l.inFlow) fun t => .tag t.1 t.2
    else if ch == '|' && !l.inFlow then l.readBlockToken true
    else if ch == '>' && !l.inFlow then l.readBlockToken false
    else if ch == '\'' then l.readNode (readQuoted true) fun text => .scalar text false
    else if ch == '"' then l.readNode (readQuoted false) fun text => .scalar text false
    else if l.atPlain then l.readPlainToken
    else refuse .nextToken c.mark .noToken c.mark

/-- Looks at the next `count` characters. If something goes wrong behind the text, they must be
there. -/
def require (count : Nat) (l : Lexer) : Except Malformed Unit :=
  match l.behind with
  | some e => if (l.cursor.rest.take count).length < count then .error e else .ok ()
  | none => .ok ()

/-- The token that starts here, unless the end of a text that goes wrong behind it has been looked
at. -/
def readTokenWithin (l : Lexer) : Except Malformed Lexer := do
  l.require 4
  match l.readToken with
  | .ok next =>
    next.require 1
    return next
  | .error e =>
    let finish := (l.cursor.advance l.cursor.rest.length).mark.index
    throw (if e.mark.index < finish then e else l.behind.getD e)

/-- The next token and those that it brings along. -/
def next (l : Lexer) : Except Malformed Lexer := do
  let l := l.skipGap (l.cursor.rest.length + 1)
  l.require 1
  let l ← l.dropStaleKeys
  let l ← (l.closeBlocks l.mark.column).readTokenWithin
  l.dropStaleKeys

/-- The tokens in front of the first place that is still open. -/
def settled (l : Lexer) : List Token :=
  let numbers := l.keys.filterMap fun key => key.map PossibleKey.number
  l.tokens.reverse.take (numbers.foldl min l.tokens.length)

end Lexer

/-- The tokens of a text. -/
structure TokenStream where
  tokens : List Token
  /-- The place where the text ends, or how it goes wrong behind the tokens. -/
  ending : Except Malformed Mark

namespace TokenStream

/-- Reads on until the text ends or goes wrong. -/
def ofLexer : (fuel : Nat) → Lexer → TokenStream
  | 0, l => ⟨l.settled, .ok l.mark⟩
  | fuel + 1, l =>
    match l.next with
    | .error e => ⟨l.settled, .error e⟩
    | .ok next =>
      match next.tokens with
      | ⟨.streamEnd, mark, _⟩ :: rest => ⟨rest.reverse, .ok mark⟩
      | _ => ofLexer fuel next

/-- Whether a character may stand in a text. -/
def isAllowed (ch : Char) : Bool :=
  let n := ch.toNat
  n == 9 || n == 10 || n == 13 || (0x20 ≤ n && n ≤ 0x7e) || n == 0x85 || (0xa0 ≤ n && n ≤ 0xd7ff) ||
    (0xe000 ≤ n && n ≤ 0xfffd) || 0x10000 ≤ n

/-- The number of bytes of a text that are looked at together. -/
def pieceSize : Nat := 16384

/-- The characters that fit into a number of bytes, and the others. -/
def splitPiece : (room : Nat) → List Char → List Char × List Char
  | _, [] => ([], [])
  | room, ch :: rest =>
    if ch.utf8Size ≤ room then
      let (piece, others) := splitPiece (room - ch.utf8Size) rest
      (ch :: piece, others)
    else ([], ch :: rest)

/-- The pieces of a text in front of the first that holds a character that may not stand there. -/
def readablePieces : (fuel : Nat) → List Char → List Char
  | 0, _ | _, [] => []
  | fuel + 1, text =>
    let (piece, others) := splitPiece pieceSize text
    if piece.all isAllowed then piece ++ readablePieces fuel others else []

/-- The tokens of a text. A control character spoils the piece of the text that it stands in and
all that follows. Every token takes at least a character but the end of the text. -/
def ofText (text : String) : TokenStream :=
  let before := text.toList.takeWhile isAllowed
  if before.length < text.length then
    let fault : Malformed := .controlCharacter (String.ofList before).utf8ByteSize
    let readable := readablePieces text.length text.toList
    ofLexer (readable.length + 1) (.ofText (String.ofList readable) fault)
  else ofLexer (text.length + 1) (.ofText text none)

/-- The next token. -/
def peek (s : TokenStream) : Except Malformed Token :=
  match s.tokens with
  | token :: _ => .ok token
  | [] => s.ending.map fun mark => ⟨.streamEnd, mark, mark⟩

/-- The tokens behind the next. -/
def tail (s : TokenStream) : TokenStream := { s with tokens := s.tokens.drop 1 }

end TokenStream

end ControlPlane.Yaml
