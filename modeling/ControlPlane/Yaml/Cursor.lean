/-!
# Reading a YAML text

A cursor is the text that is left to read, with the place where it starts. Lines are counted from
zero, and so are the characters of a line and the bytes of the text in UTF-8.

## Main definitions

* `Yaml.isBreak`, `Yaml.isBlank`, `Yaml.isWord` : classes of characters.
* `Yaml.Mark`, `Yaml.Cursor` : places, and texts with their place.
* `Cursor.advance`, `Cursor.advanceLine`, `Cursor.readBreak` : steps through a text.
-/

namespace ControlPlane.Yaml

/-- Whether a character ends a line. -/
def isBreak (c : Char) : Bool :=
  c == '\r' || c == '\n' || c == '\x85' || c == '\u2028' || c == '\u2029'

/-- Whether a character is a space or a tab. -/
def isBlank (c : Char) : Bool := c == ' ' || c == '\t'

/-- Whether a character may stand in the name of an anchor, a tag handle or a directive. -/
def isWord (c : Char) : Bool := c.isAlphanum || c == '-' || c == '_'

/-- The value of a hexadecimal digit. -/
def hexValue? (c : Char) : Option Nat :=
  if '0' ≤ c ∧ c ≤ '9' then some (c.toNat - '0'.toNat)
  else if 'a' ≤ c ∧ c ≤ 'f' then some (c.toNat - 'a'.toNat + 10)
  else if 'A' ≤ c ∧ c ≤ 'F' then some (c.toNat - 'A'.toNat + 10)
  else none

/-- A place in a text. -/
structure Mark where
  /-- The number of bytes in front of it. -/
  index : Nat
  /-- The number of lines in front of it. -/
  line : Nat
  /-- The number of characters in front of it on its line. -/
  column : Nat
deriving DecidableEq, Repr, Inhabited

/-- Whether a place is the start of the text. -/
def Mark.isStart (m : Mark) : Bool := m.line == 0 && m.column == 0

/-- The wording of a place, which counts lines and columns from one. -/
def Mark.text (m : Mark) : String :=
  "line " ++ toString (m.line + 1) ++ " column " ++ toString (m.column + 1)

/-- A text that is left to read. -/
structure Cursor where
  rest : List Char
  mark : Mark

namespace Cursor

/-- The cursor in front of a text. -/
def ofText (text : String) : Cursor := ⟨text.toList, ⟨0, 0, 0⟩⟩

/-- Whether nothing is left. -/
def isEnd (c : Cursor) : Bool := c.rest.isEmpty

/-- The next character but `ahead`. -/
def peek? (c : Cursor) (ahead : Nat := 0) : Option Char := c.rest[ahead]?

/-- Whether the next character is the given one. -/
def isAt (c : Cursor) (expected : Char) : Bool := c.peek? == some expected

/-- Whether the next character is of a class. -/
def atAny (c : Cursor) (p : Char → Bool) : Bool := c.peek?.any p

/-- Whether a line or the text ends here. -/
def atBreakOrEnd (c : Cursor) : Bool := c.peek?.all isBreak

/-- Whether a blank, the end of a line or the end of the text is `ahead` characters further. -/
def atGapOrEnd (c : Cursor) (ahead : Nat := 0) : Bool :=
  (c.peek? ahead).all fun ch => isBlank ch || isBreak ch

/-- Passes over characters within a line. -/
def advance (c : Cursor) (count : Nat := 1) : Cursor :=
  ⟨c.rest.drop count,
    { c.mark with
      index := c.mark.index + (String.ofList (c.rest.take count)).utf8ByteSize
      column := c.mark.column + count }⟩

/-- Passes over characters of a class within a line. -/
def skipWhile (c : Cursor) (p : Char → Bool) : Cursor := c.advance (c.rest.takeWhile p).length

/-- The characters of a class, and the cursor behind them. -/
def takeWhile (c : Cursor) (p : Char → Bool) : List Char × Cursor :=
  (c.rest.takeWhile p, c.skipWhile p)

/-- Goes to the start of the next line, if a line ends here; a carriage return and the line feed
behind it are one break. The break is given as it counts in the text of a scalar. -/
def readBreak (c : Cursor) : List Char × Cursor :=
  let next (count : Nat) (rest : List Char) : Cursor :=
    ⟨rest, ⟨c.mark.index + count, c.mark.line + 1, 0⟩⟩
  match c.rest with
  | '\r' :: '\n' :: rest => (['\n'], next 2 rest)
  | ch :: rest =>
    if ch == '\u2028' || ch == '\u2029' then ([ch], next ch.utf8Size rest)
    else if isBreak ch then (['\n'], next ch.utf8Size rest)
    else ([], c)
  | [] => ([], c)

/-- Goes to the start of the next line, if a line ends here. -/
def advanceLine (c : Cursor) : Cursor := c.readBreak.2

/-- Whether a line starts here with a mark between documents, which is three times the given
character. -/
def atDocumentMark (c : Cursor) (ch : Char) : Bool :=
  c.mark.column == 0 && c.rest.take 3 == [ch, ch, ch] && c.atGapOrEnd 3

end Cursor

end ControlPlane.Yaml
