import ControlPlane.Binary64.Shortest
import ControlPlane.Json.Basic

/-!
# The text of a JSON value

One printer writes a value without blanks, in a style that says how numbers are written and in which
order members stand; another spreads it over lines.

## Main definitions

* `Json.quoted` : a string with its quotes and escapes.
* `Json.Style`, `Json.compactStyle` : the choices of the printer, and the plain ones.
* `Json.chars`, `Json.compact` : the text of a value without blanks.
* `Json.pretty` : the text of a value over lines, with two blanks for each level.
-/

namespace ControlPlane.Json

/-- A character of a string as it stands between the quotes: only the quote, the backslash and the
controls are escaped. -/
def escaped (c : Char) : List Char :=
  if c = '"' then ['\\', '"']
  else if c = '\\' then ['\\', '\\']
  else if c = '\x08' then ['\\', 'b']
  else if c = '\t' then ['\\', 't']
  else if c = '\n' then ['\\', 'n']
  else if c = '\x0c' then ['\\', 'f']
  else if c = '\r' then ['\\', 'r']
  else if c.toNat < 0x20 then
    ['\\', 'u', '0', '0', Nat.digitChar (c.toNat / 16), Nat.digitChar (c.toNat % 16)]
  else [c]

/-- A string with its quotes. -/
def quoted (s : String) : List Char := '"' :: (s.toList.flatMap escaped ++ ['"'])

/-- The decimal digits of an integer, behind a minus sign when it is negative. -/
def integerChars (n : Int) : List Char :=
  if n < 0 then '-' :: Nat.toDigits 10 n.natAbs else Nat.toDigits 10 n.natAbs

/-- The choices of a printer. -/
structure Style where
  /-- How doubles are written. -/
  numeral : NumeralStyle
  /-- The order of members, each given by the text of its key and the text of its value. -/
  arrange : List (List Char × List Char) → List (List Char × List Char)

/-- A double as text; what is no number is written `null`. -/
def Style.floatChars (style : Style) (x : Binary64) : List Char :=
  match x.numeral? style.numeral with
  | some text => text.toList
  | none => ['n', 'u', 'l', 'l']

/-- Texts with commas between them. -/
def separated : List (List Char) → List Char
  | [] => []
  | [text] => text
  | text :: rest => text ++ ',' :: separated rest

/-- The text of an object from the texts of its members. -/
def Style.objectChars (style : Style) (members : List (List Char × List Char)) : List Char :=
  '{' :: (separated ((style.arrange members).map fun m => m.1 ++ ':' :: m.2) ++ ['}'])

mutual

/-- The text of a value without blanks. -/
def chars (style : Style) : Json → List Char
  | .null => ['n', 'u', 'l', 'l']
  | .bool true => ['t', 'r', 'u', 'e']
  | .bool false => ['f', 'a', 'l', 's', 'e']
  | .integer n => integerChars n
  | .float x => style.floatChars x
  | .string s => quoted s
  | .array items => '[' :: (separated (itemChars style items) ++ [']'])
  | .object members => style.objectChars (memberChars style members)

/-- The texts of items. -/
def itemChars (style : Style) : List Json → List (List Char)
  | [] => []
  | v :: rest => chars style v :: itemChars style rest

/-- The texts of members, the key and the value of each. -/
def memberChars (style : Style) : List (String × Json) → List (List Char × List Char)
  | [] => []
  | (k, v) :: rest => (quoted k, chars style v) :: memberChars style rest

end

/-- Doubles keep a fraction digit and the sign of zero, so that they read back as doubles;
positional notation is used from `1e-5` up to `1e16`. -/
def compactStyle : Style where
  numeral :=
    { leastPositional := -5, firstScientific := 16, wholeFraction := true, signedZero := true }
  arrange := id

/-- The compact text of a value, members in their order. -/
def compact (v : Json) : String := String.ofList (chars compactStyle v)

/-- A new line at the given level. -/
def lineBreak (level : Nat) : List Char := '\n' :: List.replicate (2 * level) ' '

/-- Texts on lines of their own at the given level, between brackets one level up. -/
def onLines (opening closing : Char) (level : Nat) (texts : List (List Char)) : List Char :=
  if texts.isEmpty then [opening, closing]
  else
    opening :: (separated (texts.map fun text => lineBreak (level + 1) ++ text) ++
      lineBreak level ++ [closing])

mutual

/-- The text of a value over lines, at the given level of indentation. -/
def prettyChars (level : Nat) : Json → List Char
  | .array items => onLines '[' ']' level (prettyItems (level + 1) items)
  | .object members => onLines '{' '}' level (prettyMembers (level + 1) members)
  | .null => chars compactStyle .null
  | .bool b => chars compactStyle (.bool b)
  | .integer n => chars compactStyle (.integer n)
  | .float x => chars compactStyle (.float x)
  | .string s => chars compactStyle (.string s)

/-- The texts of items over lines. -/
def prettyItems (level : Nat) : List Json → List (List Char)
  | [] => []
  | v :: rest => prettyChars level v :: prettyItems level rest

/-- The texts of members over lines. -/
def prettyMembers (level : Nat) : List (String × Json) → List (List Char)
  | [] => []
  | (k, v) :: rest => (quoted k ++ ':' :: ' ' :: prettyChars level v) :: prettyMembers level rest

end

/-- The text of a value over lines, members in their order. -/
def pretty (v : Json) : String := String.ofList (prettyChars 0 v)

end ControlPlane.Json
