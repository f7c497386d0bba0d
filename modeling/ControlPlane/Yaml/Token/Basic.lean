import ControlPlane.Yaml.Token.Scalar

/-!
# Tokens of a YAML text

## Main definitions

* `Yaml.Token` : the tokens, with their places.
* `Yaml.readAnchor`, `Yaml.readTag`, `Yaml.readDirective` : tokens that are neither punctuation nor
  scalars.
-/

namespace ControlPlane.Yaml

/-- What a token says. -/
inductive TokenKind where
  | streamEnd
  | version (major minor : Nat)
  | tagHandle (handle meaning : String)
  | documentStart
  | documentEnd
  | blockSequenceStart
  | blockMappingStart
  | blockEnd
  | flowSequenceStart
  | flowSequenceEnd
  | flowMappingStart
  | flowMappingEnd
  | blockEntry
  | flowEntry
  | key
  | value
  | alias (name : String)
  | anchor (name : String)
  | tag (handle suffix : String)
  | scalar (text : String) (plain : Bool)
deriving DecidableEq, Repr

/-- A token and its place. -/
structure Token where
  kind : TokenKind
  start : Mark
  finish : Mark
deriving DecidableEq, Repr

/-! ### Anchors and aliases -/

/-- The name behind an ampersand or an asterisk. -/
def readAnchor (context : Context) (c : Cursor) : Except Malformed (String × Cursor) :=
  let (name, next) := c.advance.takeWhile isWord
  if name.isEmpty || !(next.atGapOrEnd || next.atAny fun ch => "?:,]\x7d%@`".contains ch) then
    refuse context c.mark .alphanumericExpected next.mark
  else .ok (String.ofList name, next)

/-! ### Tags -/

/-- A name between exclamation marks. The second mark may be missing, in a directive only behind an
empty name. -/
def readHandle (inDirective : Bool) (start : Mark) (c : Cursor) :
    Except Malformed (List Char × Cursor) :=
  if !c.isAt '!' then
    refuse (if inDirective then .tagDirectiveStart else .tag) start .exclamationExpected c.mark
  else
    let (name, next) := c.advance.takeWhile isWord
    if next.isAt '!' then .ok ('!' :: name ++ ['!'], next.advance)
    else if inDirective && !name.isEmpty then
      refuse .tagDirectiveHandle start .exclamationExpected next.mark
    else .ok ('!' :: name, next)

/-- Whether a character may stand in a tag; the last three stand in verbatim tags only. -/
def isTagChar (verbatim : Bool) (ch : Char) : Bool :=
  isWord ch || ";/?:@&=+$.%!~*'()".contains ch || (verbatim && ",[]".contains ch)

/-- The octet of an escape. -/
def readOctet (context : Context) (start : Mark) (c : Cursor) : Except Malformed (Nat × Cursor) :=
  match c.peek?, (c.peek? 1).bind hexValue?, (c.peek? 2).bind hexValue? with
  | some '%', some high, some low => .ok (16 * high + low, c.advance 3)
  | _, _, _ => refuse context start .escapedOctetExpected c.mark

/-- The octets of escapes that make up the rest of a character. -/
def readTrailingOctets (context : Context) (start : Mark) :
    (count : Nat) → Cursor → Except Malformed (List Char × Cursor)
  | 0, c => .ok ([], c)
  | count + 1, c => do
    let (octet, next) ← readOctet context start c
    if octet / 64 != 2 then refuse context start .trailingOctet c.mark
    let (octets, next) ← readTrailingOctets context start count next
    return (Char.ofNat octet :: octets, next)

/-- The octets of escapes that make up a character. They are kept as they are. -/
def readEscapedOctets (context : Context) (start : Mark) (c : Cursor) :
    Except Malformed (List Char × Cursor) := do
  let (octet, next) ← readOctet context start c
  let following? : Option Nat :=
    if octet < 0x80 then some 0
    else if octet / 32 = 6 then some 1
    else if octet / 16 = 14 then some 2
    else if octet / 8 = 30 then some 3
    else none
  match following? with
  | none => refuse context start .leadingOctet c.mark
  | some following =>
    let (octets, next) ← readTrailingOctets context start following next
    return (Char.ofNat octet :: octets, next)

/-- The characters of a tag, in reverse in front of those given. -/
def readTagChars (verbatim : Bool) (context : Context) (start : Mark) :
    (fuel : Nat) → List Char → Cursor → Except Malformed (List Char × Cursor)
  | 0, tag, c => .ok (tag, c)
  | fuel + 1, tag, c =>
    match c.peek? with
    | some ch =>
      if !isTagChar verbatim ch then .ok (tag, c)
      else if ch == '%' then do
        let (octets, next) ← readEscapedOctets context start c
        readTagChars verbatim context start fuel (octets.reverse ++ tag) next
      else readTagChars verbatim context start fuel (ch :: tag) c.advance
    | none => .ok (tag, c)

/-- A tag or the end of one behind what has been read of it as a handle. It counts up to the first
octet that is zero. -/
def readTagText (verbatim : Bool) (context : Context) (head : List Char) (start : Mark)
    (c : Cursor) : Except Malformed (List Char × Cursor) := do
  let (tag, next) ← readTagChars verbatim context start (c.rest.length + 1) (head.drop 1).reverse c
  if head.isEmpty && tag.isEmpty then refuse context start .tagExpected next.mark
  return (tag.reverse.takeWhile (· != '\x00'), next)

/-- The handle and the suffix of a tag in short form. A tag that is a single exclamation mark has no
handle. -/
def readShortTag (start : Mark) (c : Cursor) :
    Except Malformed ((List Char × List Char) × Cursor) := do
  let (handle, next) ← readHandle false start c
  if 2 ≤ handle.length && handle.getLast? == some '!' then
    let (suffix, next) ← readTagText false .tagSuffix [] start next
    return ((handle, suffix), next)
  else
    let (suffix, next) ← readTagText false .tagSuffix handle start next
    return (if suffix.isEmpty then ([], ['!']) else (['!'], suffix), next)

/-- A tag between angle brackets, which has no handle. -/
def readVerbatimTag (start : Mark) (c : Cursor) :
    Except Malformed ((List Char × List Char) × Cursor) := do
  let (suffix, next) ← readTagText true .tagSuffix [] start (c.advance 2)
  if !next.isAt '>' then refuse .tag start .closingAngleExpected next.mark
  return (([], suffix), next.advance)

/-- The handle and the suffix of a tag. -/
def readTag (inFlow : Bool) (c : Cursor) : Except Malformed ((String × String) × Cursor) := do
  let ((handle, suffix), next) ←
    if c.peek? 1 == some '<' then readVerbatimTag c.mark c else readShortTag c.mark c
  if !(next.atGapOrEnd || (inFlow && next.isAt ',')) then
    refuse .tag c.mark .whitespaceOrBreakExpected next.mark
  return ((String.ofList handle, String.ofList suffix), next)

/-! ### Directives -/

/-- A number of a version. -/
def readVersionNumber (start : Mark) (c : Cursor) : Except Malformed (Nat × Cursor) :=
  let (digits, next) := c.takeWhile Char.isDigit
  if 9 < digits.length then refuse .versionDirective start .versionTooLong (c.advance 9).mark
  else if digits.isEmpty then refuse .versionDirective start .versionExpected c.mark
  else .ok (digits.foldl (fun n d => 10 * n + (d.toNat - '0'.toNat)) 0, next)

/-- The version of a directive. -/
def readVersion (start : Mark) (c : Cursor) : Except Malformed (TokenKind × Cursor) := do
  let (major, next) ← readVersionNumber start (c.skipWhile isBlank)
  if !next.isAt '.' then refuse .versionDirective start .digitOrPointExpected next.mark
  let (minor, next) ← readVersionNumber start next.advance
  return (.version major minor, next)

/-- The handle of a directive and what it means. -/
def readTagHandle (start : Mark) (c : Cursor) : Except Malformed (TokenKind × Cursor) := do
  let (handle, next) ← readHandle true start (c.skipWhile isBlank)
  if !next.atAny isBlank then refuse .tagDirective start .whitespaceExpected next.mark
  let (meaning, next) ← readTagText true .tagDirectivePrefix [] start (next.skipWhile isBlank)
  if !next.atGapOrEnd then refuse .tagDirective start .whitespaceOrBreakExpected next.mark
  return (.tagHandle (String.ofList handle) (String.ofList meaning), next)

/-- A directive, and the end of its text next to the start of the next line. -/
def readDirective (c : Cursor) : Except Malformed (Token × Cursor) := do
  let (name, next) := c.advance.takeWhile isWord
  if name.isEmpty then refuse .directive c.mark .directiveNameExpected next.mark
  if !next.atGapOrEnd then refuse .directive c.mark .nonAlphabetical next.mark
  let (kind, next) ←
    if name == "YAML".toList then readVersion c.mark next
    else if name == "TAG".toList then readTagHandle c.mark next
    else refuse .directive c.mark .unknownDirective next.mark
  let token : Token := ⟨kind, c.mark, next.mark⟩
  return (token, ← readLineEnd .directive c.mark next)

end ControlPlane.Yaml
