import ControlPlane.Json.Basic
import ControlPlane.Json.Malformation
import ControlPlane.Text.Utf8

/-!
# Reading JSON documents

A reader takes the bytes that are left and gives a value with the bytes behind it, or the first
fault. Arrays and objects may nest 127 deep. Readers of lists and members take the reader of their
parts as an argument, so that records can be read by the same rules.

## Main definitions

* `Json.readString`, `Json.readNumber` : the scalars behind their first byte.
* `Json.readItems`, `Json.readMembers` : lists and members behind the opening bracket.
* `Json.readValue` : a value that nests no deeper than allowed.
* `Json.parse` : the value of a whole document.
-/

namespace ControlPlane.Json

/-- Whether a byte is blank between tokens. -/
def isBlankByte (b : UInt8) : Bool := b == 0x20 || b == 0x0a || b == 0x0d || b == 0x09

/-- The bytes from the first that is not blank. -/
def skipBlank (text : Bytes) : Bytes := text.dropWhile isBlankByte

/-- Whether a byte is a decimal digit. -/
def isDigit (b : UInt8) : Bool := 0x30 ≤ b && b ≤ 0x39

/-- The value of a hexadecimal digit in either case. -/
def hexValue? (b : UInt8) : Option Nat :=
  if isDigit b then some (b.toNat - 0x30)
  else if 0x41 ≤ b && b ≤ 0x46 then some (b.toNat - 0x37)
  else if 0x61 ≤ b && b ≤ 0x66 then some (b.toNat - 0x57)
  else none

/-! ### Strings -/

/-- The four digits of an escape and the bytes behind them. All four bytes are read before they are
looked at. -/
def readHexEscape : Bytes → Except Malformed (Nat × Bytes)
  | a :: b :: c :: d :: rest =>
    match hexValue? a, hexValue? b, hexValue? c, hexValue? d with
    | some a, some b, some c, some d => .ok (4096 * a + 256 * b + 16 * c + d, rest)
    | _, _, _, _ => .error (.before .invalidEscape rest)
  | _ => .error (.before .endInString [])

/-- Whether a code unit is the first half of a pair. -/
def isLeadingSurrogate (unit : Nat) : Bool := 0xd800 ≤ unit && unit ≤ 0xdbff

/-- Whether a code unit is the second half of a pair. -/
def isTrailingSurrogate (unit : Nat) : Bool := 0xdc00 ≤ unit && unit ≤ 0xdfff

/-- The code point of an escape behind its `u`, read together with the second half of a pair. -/
def readCodePoint (text : Bytes) : Except Malformed (Nat × Bytes) := do
  let (unit, rest) ← readHexEscape text
  if isTrailingSurrogate unit then throw (.before .loneSurrogate rest)
  else if !isLeadingSurrogate unit then return (unit, rest)
  else match rest with
    | [] => throw (.before .endInString [])
    | backslash :: rest =>
      if backslash != 0x5c then throw (.before .endOfHexEscape rest)
      else match rest with
        | [] => throw (.before .endInString [])
        | letter :: rest =>
          if letter != 0x75 then throw (.before .endOfHexEscape rest)
          else
            let (second, rest) ← readHexEscape rest
            if isTrailingSurrogate second then
              return (0x10000 + 0x400 * (unit - 0xd800) + (second - 0xdc00), rest)
            else throw (.before .loneSurrogate rest)

/-- The byte that a letter behind a backslash stands for. -/
def shortEscape? (b : UInt8) : Option UInt8 :=
  if b = 0x22 || b = 0x5c || b = 0x2f then some b
  else if b = 0x62 then some 0x08
  else if b = 0x66 then some 0x0c
  else if b = 0x6e then some 0x0a
  else if b = 0x72 then some 0x0d
  else if b = 0x74 then some 0x09
  else none

/-- The bytes that an escape behind its backslash stands for. -/
def readEscape : Bytes → Except Malformed (Bytes × Bytes)
  | [] => .error (.before .endInString [])
  | b :: rest =>
    if b = 0x75 then do
      let (code, rest) ← readCodePoint rest
      return (Bytes.ofText (Char.ofNat code).toString, rest)
    else match shortEscape? b with
      | some meant => .ok ([meant], rest)
      | none => .error (.before .invalidEscape rest)

/-- The bytes of a string up to its closing quote, escapes replaced by what they stand for. Each
step reads a byte at least, so the length of the text is fuel enough. -/
def readStringBytes : (fuel : Nat) → Bytes → Except Malformed (Bytes × Bytes)
  | 0, _ | _, [] => .error (.before .endInString [])
  | fuel + 1, b :: rest =>
    if b = 0x22 then .ok ([], rest)
    else if b = 0x5c then do
      let (meant, rest) ← readEscape rest
      let (tail, rest) ← readStringBytes fuel rest
      return (meant ++ tail, rest)
    else if b < 0x20 then .error (.before .controlCharacter rest)
    else do
      let (tail, rest) ← readStringBytes fuel rest
      return (b :: tail, rest)

/-- A string behind its opening quote. That it is UTF-8 is looked at last. The place of a fault is
counted back from behind the closing quote, by the bytes of the string that are no part of its
longest beginning in UTF-8: without escapes, that place is the first bad byte. -/
def readString (text : Bytes) : Except Malformed (String × Bytes) := do
  let (bytes, rest) ← readStringBytes (text.length + 1) text
  match Bytes.toText? bytes with
  | some s => return (s, rest)
  | none =>
    throw ⟨.invalidCodePoint, rest.length + (bytes.length - Bytes.wellFormedLength bytes)⟩

/-! ### Numbers -/

/-- The number that a run of digits writes, with the number in front of it. -/
def digitsValue (start : Nat) (digits : Bytes) : Nat :=
  digits.foldl (fun n b => 10 * n + (b.toNat - 0x30)) start

/-- The digits in front of the point: a zero stands alone. -/
def readWhole : Bytes → Except Malformed (Bytes × Bytes)
  | [] => .error (.before .endInValue [])
  | b :: rest =>
    if b = 0x30 then
      if rest.head?.any isDigit then .error (.onFirst .invalidNumber rest) else .ok ([b], rest)
    else if isDigit b then .ok (b :: rest.takeWhile isDigit, rest.dropWhile isDigit)
    else .error (.before .invalidNumber rest)

/-- The digits behind the point, if there is one; a point without digits is a fault. -/
def readFraction (text : Bytes) : Except Malformed (Option Bytes × Bytes) :=
  if text.head? = some 0x2e then
    let rest := text.drop 1
    let digits := rest.takeWhile isDigit
    if !digits.isEmpty then .ok (some digits, rest.dropWhile isDigit)
    else if rest.isEmpty then .error (.before .endInValue [])
    else .error (.onFirst .invalidNumber rest)
  else .ok (none, text)

/-- The greatest exponent that is added up digit by digit. -/
def exponentBound : Nat := 2147483647

/-- The digits of an exponent up to and with the one that takes it out of bounds, if one does. -/
def exponentOverflow? (value : Nat) : Bytes → Option Bytes
  | [] => none
  | b :: rest =>
    if isDigit b then
      let next := 10 * value + (b.toNat - 0x30)
      if exponentBound < next then some rest else exponentOverflow? next rest
    else none

/-- The exponent behind the letter, with its sign. An exponent out of bounds makes a number other
than zero infinite, or zero when the exponent is negative. -/
def readExponentDigits (isZero : Bool) (text : Bytes) : Except Malformed (Int × Bytes) := do
  let negative := text.head? = some 0x2d
  let text := if negative || text.head? = some 0x2b then text.drop 1 else text
  match text with
  | [] => throw (.before .endInValue [])
  | b :: rest =>
    if !isDigit b then throw (.before .invalidNumber rest)
    else
      match exponentOverflow? 0 text with
      | some rest =>
        if !isZero && !negative then throw (.before .numberOutOfRange rest)
        else return (-exponentBound, rest.dropWhile isDigit)
      | none =>
        let value : Int := digitsValue 0 (text.takeWhile isDigit)
        return (if negative then -value else value, text.dropWhile isDigit)

/-- The exponent, if there is one. -/
def readExponent (isZero : Bool) (text : Bytes) : Except Malformed (Option Int × Bytes) :=
  if text.head? = some 0x65 || text.head? = some 0x45 then do
    let (exponent, rest) ← readExponentDigits isZero (text.drop 1)
    return (some exponent, rest)
  else .ok (none, text)

/-- An integer that a value can hold as one. A negative zero is not held as an integer. -/
def heldInteger? (negative : Bool) (n : Nat) : Option Int :=
  if negative then if n ≠ 0 ∧ leastInteger ≤ -n then some (-n) else none
  else if n < integerBound then some n else none

/-- A number behind its minus sign, if it has one. Digits alone are an integer when it fits; all
else is the nearest double. -/
def readNumber (negative : Bool) (text : Bytes) : Except Malformed (Json × Bytes) := do
  let (whole, rest) ← readWhole text
  let (fraction, rest) ← readFraction rest
  let digits := digitsValue (digitsValue 0 whole) (fraction.getD [])
  let (exponent, rest) ← readExponent (digits = 0) rest
  let float : Except Malformed (Json × Bytes) :=
    match Binary64.ofDecimal? negative digits (exponent.getD 0 - (fraction.getD []).length) with
    | some x => .ok (.float x, rest)
    | none => .error (.before .numberOutOfRange rest)
  match fraction, exponent, heldInteger? negative digits with
  | none, none, some n => return (.integer n, rest)
  | _, _, _ => float

/-! ### Words -/

/-- The letters of a word behind its first. -/
def readWord : (letters : Bytes) → Bytes → Except Malformed Bytes
  | [], rest => .ok rest
  | _ :: _, [] => .error (.before .endInValue [])
  | letter :: letters, b :: rest =>
    if b = letter then readWord letters rest else .error (.before .expectedIdent rest)

/-- The letters of `null` behind the first. -/
def nullTail : Bytes := [0x75, 0x6c, 0x6c]

/-- The letters of `true` behind the first. -/
def trueTail : Bytes := [0x72, 0x75, 0x65]

/-- The letters of `false` behind the first. -/
def falseTail : Bytes := [0x61, 0x6c, 0x73, 0x65]

/-- A value that is neither array nor object, from its first byte. -/
def readScalar : Bytes → Except Malformed (Json × Bytes)
  | [] => .error (.before .endInValue [])
  | b :: rest =>
    if b = 0x6e then do return (.null, ← readWord nullTail rest)
    else if b = 0x74 then do return (.bool true, ← readWord trueTail rest)
    else if b = 0x66 then do return (.bool false, ← readWord falseTail rest)
    else if b = 0x2d then readNumber true rest
    else if isDigit b then readNumber false (b :: rest)
    else if b = 0x22 then do
      let (s, rest) ← readString rest
      return (.string s, rest)
    else .error (.onFirst .expectedValue (b :: rest))

/-! ### Lists and members -/

section Parts

variable {ε α β : Type} (fault : Malformed → ε)

/-- What follows a part of a list or an object: its end and the bytes behind, or the next part. -/
inductive Continuation where
  | closed (rest : Bytes)
  | next (part : Bytes)

/-- What follows an item of a list. -/
def afterItem (text : Bytes) : Except Malformed Continuation :=
  match skipBlank text with
  | [] => .error (.before .endInList [])
  | b :: rest =>
    if b = 0x5d then .ok (.closed rest)
    else if b != 0x2c then .error (.onFirst .expectedCommaOrBracket (b :: rest))
    else match skipBlank rest with
      | [] => .error (.before .endInValue [])
      | c :: rest =>
        if c = 0x5d then .error (.onFirst .trailingComma (c :: rest)) else .ok (.next (c :: rest))

/-- Items from the first one on. Each reads a byte at least, so the length of the text is fuel
enough. -/
def readItemsFrom (item : Bytes → Except ε (α × Bytes)) :
    (fuel : Nat) → Bytes → Except ε (List α × Bytes)
  | 0, _ => .error (fault (.before .endInList []))
  | fuel + 1, text => do
    let (first, rest) ← item text
    match ← (afterItem rest).mapError fault with
    | .closed rest => return ([first], rest)
    | .next part =>
      let (others, rest) ← readItemsFrom item fuel part
      return (first :: others, rest)

/-- Items behind the opening bracket, and the bytes behind the closing one. -/
def readItems (item : Bytes → Except ε (α × Bytes)) (text : Bytes) : Except ε (List α × Bytes) :=
  match skipBlank text with
  | [] => .error (fault (.before .endInList []))
  | b :: rest =>
    if b = 0x5d then .ok ([], rest) else readItemsFrom fault item (rest.length + 1) (b :: rest)

/-- A key from its opening quote. -/
def readKey : Bytes → Except Malformed (String × Bytes)
  | [] => .error (.before .endInObject [])
  | b :: rest => if b = 0x22 then readString rest else .error (.onFirst .keyNotString (b :: rest))

/-- The bytes behind the colon that follows a key. -/
def afterColon (text : Bytes) : Except Malformed Bytes :=
  match skipBlank text with
  | [] => .error (.before .endInObject [])
  | b :: rest => if b = 0x3a then .ok rest else .error (.onFirst .expectedColon (b :: rest))

/-- What follows a member of an object. -/
def afterMember (text : Bytes) : Except Malformed Continuation :=
  match skipBlank text with
  | [] => .error (.before .endInObject [])
  | b :: rest =>
    if b = 0x7d then .ok (.closed rest)
    else if b != 0x2c then .error (.onFirst .expectedCommaOrBrace (b :: rest))
    else match skipBlank rest with
      | [] => .error (.before .endInValue [])
      | c :: rest =>
        if c = 0x7d then .error (.onFirst .trailingComma (c :: rest)) else .ok (.next (c :: rest))

/-- Members from the first key on, taken into an account one after the other. A member is handed
over as its key and the bytes behind the key, the colon included. -/
def readMembersFrom (member : α → String → Bytes → Except ε (α × Bytes)) :
    (fuel : Nat) → α → Bytes → Except ε (α × Bytes)
  | 0, _, _ => .error (fault (.before .endInObject []))
  | fuel + 1, account, text => do
    let (key, rest) ← (readKey text).mapError fault
    let (account, rest) ← member account key rest
    match ← (afterMember rest).mapError fault with
    | .closed rest => return (account, rest)
    | .next part => readMembersFrom member fuel account part

/-- Members behind the opening brace, and the bytes behind the closing one. -/
def readMembers (member : α → String → Bytes → Except ε (α × Bytes)) (start : α) (text : Bytes) :
    Except ε (α × Bytes) :=
  match skipBlank text with
  | [] => .error (fault (.before .endInObject []))
  | b :: rest =>
    if b = 0x7d then .ok (start, rest)
    else readMembersFrom fault member (rest.length + 1) start (b :: rest)

end Parts

/-! ### Values -/

/-- Takes a member into the members read so far, in place of one of the same key. -/
def readMember (value : Bytes → Except Malformed (Json × Bytes)) (members : Members) (key : String)
    (text : Bytes) : Except Malformed (Members × Bytes) := do
  let (v, rest) ← value (← afterColon text)
  return (members.insert key v, rest)

/-- A value, from blanks in front of it, that nests arrays and objects at most `depth` deep. -/
def readValue : (depth : Nat) → Bytes → Except Malformed (Json × Bytes)
  | 0, text =>
    let text := skipBlank text
    if text.head? = some 0x5b || text.head? = some 0x7b then .error (.onFirst .recursionLimit text)
    else readScalar text
  | depth + 1, text =>
    let text := skipBlank text
    if text.head? = some 0x5b then do
      let (items, rest) ← readItems id (readValue depth) (text.drop 1)
      return (.array items, rest)
    else if text.head? = some 0x7b then do
      let (members, rest) ← readMembers id (readMember (readValue depth)) [] (text.drop 1)
      return (.object members, rest)
    else readScalar text

/-- How deep arrays and objects of a document may nest. -/
def nestingLimit : Nat := 127

/-- What is left of a document must be blank. -/
def expectEnd (text : Bytes) : Except Malformed Unit :=
  match skipBlank text with
  | [] => .ok ()
  | rest => .error (.onFirst .trailingCharacters rest)

/-- The value of a document, or its first fault. -/
def parse (document : Bytes) : Except SourceError Json :=
  let read : Except Malformed Json := do
    let (v, rest) ← readValue nestingLimit document
    expectEnd rest
    return v
  read.mapError fun e => e.inSource document

end ControlPlane.Json
