/-!
# Why a text is not a JSON document

## Main definitions

* `Json.Malformation` : the causes, with their wording.
* `Json.Position` : a line and a column.
* `Json.SourceError` : a cause and its position.
-/

namespace ControlPlane.Json

/-- Why a text is not a JSON document. -/
inductive Malformation where
  | endInValue
  | endInList
  | endInObject
  | endInString
  | expectedValue
  | expectedIdent
  | keyNotString
  | expectedColon
  | expectedCommaOrBracket
  | expectedCommaOrBrace
  | trailingComma
  | trailingCharacters
  | invalidNumber
  | numberOutOfRange
  | invalidEscape
  | endOfHexEscape
  | loneSurrogate
  | controlCharacter
  | invalidCodePoint
  | recursionLimit
deriving DecidableEq, Repr

/-- The wording of a cause. -/
def Malformation.message : Malformation → String
  | .endInValue => "EOF while parsing a value"
  | .endInList => "EOF while parsing a list"
  | .endInObject => "EOF while parsing an object"
  | .endInString => "EOF while parsing a string"
  | .expectedValue => "expected value"
  | .expectedIdent => "expected ident"
  | .keyNotString => "key must be a string"
  | .expectedColon => "expected `:`"
  | .expectedCommaOrBracket => "expected `,` or `]`"
  | .expectedCommaOrBrace => "expected `,` or `\x7d`"
  | .trailingComma => "trailing comma"
  | .trailingCharacters => "trailing characters"
  | .invalidNumber => "invalid number"
  | .numberOutOfRange => "number out of range"
  | .invalidEscape => "invalid escape"
  | .endOfHexEscape => "unexpected end of hex escape"
  | .loneSurrogate => "lone leading surrogate in hex escape"
  | .controlCharacter => "control character (\\u0000-\\u001F) found while parsing a string"
  | .invalidCodePoint => "invalid unicode code point"
  | .recursionLimit => "recursion limit exceeded"

/-- A place in a text. Lines count from one; a column is a number of bytes of its line. -/
structure Position where
  line : Nat
  column : Nat
deriving DecidableEq, Repr

/-- The wording of a place. -/
def Position.suffix (p : Position) : String :=
  " at line " ++ toString p.line ++ " column " ++ toString p.column

/-- The place behind the first `count` bytes of a text. A line feed ends its line, so that directly
behind it the column is zero. -/
def Position.behind (text : List UInt8) (count : Nat) : Position :=
  let before := text.take count
  let lastLine := before.reverse.takeWhile (· != 0x0a)
  ⟨before.count 0x0a + 1, lastLine.length⟩

/-- A cause, with the number of bytes of the text that follow its place. -/
structure Malformed where
  cause : Malformation
  left : Nat
deriving DecidableEq, Repr

/-- A cause at the byte that a rest of the text starts with, or at the end of the text. The byte
counts as read. -/
def Malformed.onFirst (cause : Malformation) (rest : List UInt8) : Malformed :=
  ⟨cause, rest.length - 1⟩

/-- A cause directly in front of a rest of the text. -/
def Malformed.before (cause : Malformation) (rest : List UInt8) : Malformed := ⟨cause, rest.length⟩

/-- Why a text is not a JSON document, and where. -/
structure SourceError where
  cause : Malformation
  position : Position
deriving DecidableEq, Repr

/-- The wording of the refusal. -/
def SourceError.message (e : SourceError) : String := e.cause.message ++ e.position.suffix

/-- The refusal of a whole text. -/
def Malformed.inSource (e : Malformed) (text : List UInt8) : SourceError :=
  ⟨e.cause, .behind text (text.length - e.left)⟩

end ControlPlane.Json
