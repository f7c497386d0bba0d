import ControlPlane.Yaml.Malformed

/-!
# Scalars in a YAML text

Scalars come in three forms. Plain and quoted scalars fold the line breaks inside them; a block
scalar keeps or folds its lines by its header.

## Main definitions

* `Yaml.Gap` : blanks and line breaks between two runs of a scalar, and what they fold to.
* `Yaml.readPlain`, `Yaml.readQuoted`, `Yaml.readBlock` : the three forms.
-/

namespace ControlPlane.Yaml

/-- Blanks and line breaks between two runs of a scalar. -/
structure Gap where
  /-- The blanks in front of the first break. -/
  blanks : List Char
  /-- Whether a line has ended. -/
  broken : Bool
  /-- The first break, unless it is escaped. -/
  first : List Char
  /-- The other breaks. -/
  others : List Char

namespace Gap

/-- No gap. -/
def empty : Gap := ⟨[], false, [], []⟩

/-- A gap behind an escaped break. -/
def escaped : Gap := ⟨[], true, [], []⟩

/-- What a gap counts as: a single line feed is a space, and of several breaks the first is dropped.
A gap within a line counts as it is. -/
def text (g : Gap) : List Char :=
  if !g.broken then g.blanks
  else if g.first == ['\n'] then if g.others.isEmpty then [' '] else g.others
  else g.first ++ g.others

end Gap

/-- Reads blanks and breaks. A tab at a place that `tabAllowed` refuses, behind a break, is the
place of the error. -/
def readGap (tabAllowed : Mark → Bool) : (fuel : Nat) → Gap → Cursor → Except Mark (Gap × Cursor)
  | 0, g, c => .ok (g, c)
  | fuel + 1, g, c =>
    match c.peek? with
    | none => .ok (g, c)
    | some ch =>
      if isBlank ch then
        if g.broken then
          if ch == '\t' && !tabAllowed c.mark then .error c.mark
          else readGap tabAllowed fuel g c.advance
        else readGap tabAllowed fuel { g with blanks := g.blanks ++ [ch] } c.advance
      else if isBreak ch then
        let (kept, next) := c.readBreak
        if g.broken then readGap tabAllowed fuel { g with others := g.others ++ kept } next
        else readGap tabAllowed fuel { g with broken := true, first := kept } next
      else .ok (g, c)

/-! ### Plain scalars -/

/-- Characters that end a plain scalar inside a flow collection. -/
def isFlowIndicator (ch : Char) : Bool := ",[]\x7b\x7d".contains ch

/-- A run of a plain scalar without blanks, in reverse. -/
def readPlainRun (inFlow : Bool) (start : Mark) : (fuel : Nat) → List Char → Cursor →
    Except Malformed (List Char × Cursor)
  | 0, run, c => .ok (run, c)
  | fuel + 1, run, c =>
    match c.peek? with
    | none => .ok (run, c)
    | some ch =>
      if isBlank ch || isBreak ch then .ok (run, c)
      else if inFlow && ch == ':' && (c.peek? 1).any fun n => n == '?' || isFlowIndicator n then
        refuse .plainScalar start .unexpectedColon c.mark
      else if (ch == ':' && c.atGapOrEnd 1) || (inFlow && isFlowIndicator ch) then .ok (run, c)
      else readPlainRun inFlow start fuel (ch :: run) c.advance

/-- What is known of a plain scalar so far. -/
structure Plain where
  /-- The text in reverse. -/
  text : List Char
  /-- Blanks and breaks behind the text. -/
  gap : Gap

/-- The runs of a plain scalar, for a block at the given indentation. -/
def readPlainRuns (inFlow : Bool) (indent : Int) (start : Mark) : (fuel : Nat) → Plain → Cursor →
    Except Malformed (Plain × Cursor)
  | 0, p, c => .ok (p, c)
  | fuel + 1, p, c =>
    if c.atDocumentMark '-' || c.atDocumentMark '.' || c.isAt '#' then .ok (p, c)
    else do
      let (run, next) ← readPlainRun inFlow start (c.rest.length + 1) [] c
      let p : Plain :=
        if run.isEmpty then p else ⟨run ++ p.gap.text.reverse ++ p.text, .empty⟩
      if !next.atAny fun ch => isBlank ch || isBreak ch then return (p, next)
      match readGap (fun m => indent < m.column) (next.rest.length + 1) p.gap next with
      | .error mark => refuse .plainScalar start .tabViolatesIndentation mark
      | .ok (gap, next) =>
        let p := { p with gap := gap }
        if !inFlow && next.mark.column ≤ indent then return (p, next)
        readPlainRuns inFlow indent start fuel p next

/-- A plain scalar, with whether lines end behind it. -/
def readPlain (inFlow : Bool) (indent : Int) (c : Cursor) :
    Except Malformed (String × Bool × Cursor) := do
  let (p, next) ← readPlainRuns inFlow indent c.mark (c.rest.length + 1) ⟨[], .empty⟩ c
  return (String.ofList p.text.reverse, p.gap.broken, next)

/-! ### Quoted scalars -/

/-- The character of a short escape. -/
def shortEscape? : Char → Option Char
  | '0' => some '\x00'
  | 'a' => some '\x07'
  | 'b' => some '\x08'
  | 't' | '\t' => some '\t'
  | 'n' => some '\n'
  | 'v' => some '\x0b'
  | 'f' => some '\x0c'
  | 'r' => some '\r'
  | 'e' => some '\x1b'
  | ' ' => some ' '
  | '"' => some '"'
  | '/' => some '/'
  | '\\' => some '\\'
  | 'N' => some '\x85'
  | '_' => some '\xa0'
  | 'L' => some '\u2028'
  | 'P' => some '\u2029'
  | _ => none

/-- The number of hexadecimal digits behind an escape. -/
def escapeLength? : Char → Option Nat
  | 'x' => some 2
  | 'u' => some 4
  | 'U' => some 8
  | _ => none

/-- The character of an escape, from the backslash on. -/
def readEscape (start : Mark) (c : Cursor) : Except Malformed (Char × Cursor) :=
  match c.peek? 1 with
  | none => refuse .quotedEscape start .unknownEscape c.mark
  | some ch =>
    match shortEscape? ch, escapeLength? ch with
    | some meant, _ => .ok (meant, c.advance 2)
    | none, none => refuse .quotedEscape start .unknownEscape c.mark
    | none, some length =>
      let digits := c.advance 2
      match (digits.rest.take length).mapM hexValue? with
      | none => refuse .quotedEscape start .hexadecimalExpected digits.mark
      | some values =>
        if values.length < length then refuse .quotedEscape start .hexadecimalExpected digits.mark
        else
          let code := values.foldl (fun n d => 16 * n + d) 0
          if code.isValidChar then .ok (Char.ofNat code, digits.advance length)
          else refuse .quotedEscape start .invalidCodePoint digits.mark

/-- A run of a quoted scalar without blanks, in reverse, with whether it ends in an escaped break.
-/
def readQuotedRun (single : Bool) (start : Mark) : (fuel : Nat) → List Char → Cursor →
    Except Malformed (List Char × Bool × Cursor)
  | 0, run, c => .ok (run, false, c)
  | fuel + 1, run, c =>
    match c.peek? with
    | none => .ok (run, false, c)
    | some ch =>
      if isBlank ch || isBreak ch then .ok (run, false, c)
      else if single then
        if ch != '\'' then readQuotedRun single start fuel (ch :: run) c.advance
        else if c.peek? 1 == some '\'' then
          readQuotedRun single start fuel (ch :: run) (c.advance 2)
        else .ok (run, false, c)
      else if ch == '"' then .ok (run, false, c)
      else if ch != '\\' then readQuotedRun single start fuel (ch :: run) c.advance
      else if (c.peek? 1).any isBreak then .ok (run, true, c.advance.advanceLine)
      else do
        let (meant, next) ← readEscape start c
        readQuotedRun single start fuel (meant :: run) next

/-- The runs of a quoted scalar, from behind the opening quote to behind the closing one, where
`text` is in reverse. -/
def readQuotedRuns (single : Bool) (start : Mark) : (fuel : Nat) → (text : List Char) → Cursor →
    Except Malformed (List Char × Cursor)
  | 0, text, c => .ok (text, c)
  | fuel + 1, text, c => do
    if c.atDocumentMark '-' || c.atDocumentMark '.' then
      refuse .quotedScalar start .documentMark c.mark
    if c.isEnd then refuse .quotedScalar start .endOfStream c.mark
    let (run, escapedBreak, next) ← readQuotedRun single start (c.rest.length + 1) [] c
    let text := run ++ text
    if next.isAt (if single then '\'' else '"') then return (text, next.advance)
    let gap : Gap := if escapedBreak then .escaped else .empty
    match readGap (fun _ => true) (next.rest.length + 1) gap next with
    | .error mark => refuse .quotedScalar start .tabViolatesIndentation mark
    | .ok (gap, next) => readQuotedRuns single start fuel (gap.text.reverse ++ text) next

/-- A quoted scalar, from the opening quote on. -/
def readQuoted (single : Bool) (c : Cursor) : Except Malformed (String × Cursor) := do
  let (text, next) ← readQuotedRuns single c.mark (c.rest.length + 1) [] c.advance
  return (String.ofList text.reverse, next)

/-! ### Block scalars -/

/-- What becomes of the breaks behind the last line of a block scalar. -/
inductive Chomping where
  | strip
  | clip
  | keep
deriving DecidableEq, Repr

/-- The chomping that a character stands for. -/
def chomping? : Char → Option Chomping
  | '-' => some .strip
  | '+' => some .keep
  | _ => none

/-- The chomping of a header and the cursor behind it. -/
def readChomping (c : Cursor) : Chomping × Cursor :=
  match c.peek?.bind chomping? with
  | some ch => (ch, c.advance)
  | none => (.clip, c)

/-- The indentation of a header and the cursor behind it; zero stands for none. -/
def readIndentation (start : Mark) (c : Cursor) : Except Malformed (Nat × Cursor) :=
  match c.peek? with
  | some ch =>
    if ch == '0' then refuse .blockScalar start .zeroIndentation c.mark
    else if ch.isDigit then .ok (ch.toNat - '0'.toNat, c.advance)
    else .ok (0, c)
  | none => .ok (0, c)

/-- The chomping and the indentation of a header, in either order. -/
def readHeader (start : Mark) (c : Cursor) : Except Malformed (Chomping × Nat × Cursor) := do
  match c.peek?.bind chomping? with
  | some chomping =>
    let (increment, c) ← readIndentation start c.advance
    return (chomping, increment, c)
  | none =>
    let (increment, next) ← readIndentation start c
    if increment = 0 then return (.clip, 0, c)
    let (chomping, next) := readChomping next
    return (chomping, increment, next)

/-- Passes over the rest of a line that holds nothing but blanks and a comment. -/
def readLineEnd (context : Context) (start : Mark) (c : Cursor) : Except Malformed Cursor :=
  let c := c.skipWhile isBlank
  let c := if c.isAt '#' then c.skipWhile (!isBreak ·) else c
  if c.atBreakOrEnd then .ok c.advanceLine else refuse context start .commentOrBreakExpected c.mark

/-- Passes over empty lines and the indentation of the next line, keeping the breaks. An indentation
of zero is not known yet; `greatest` is the greatest column so far. -/
def readEmptyLines (start : Mark) (indent : Nat) :
    (fuel : Nat) → (greatest : Nat) → List Char → Cursor →
      Except Malformed (Nat × List Char × Cursor)
  | 0, greatest, breaks, c => .ok (greatest, breaks, c)
  | fuel + 1, greatest, breaks, c =>
    let spaces := (c.rest.takeWhile (· == ' ')).length
    let c := c.advance (if indent = 0 then spaces else min spaces (indent - c.mark.column))
    let greatest := max greatest c.mark.column
    if (indent = 0 || c.mark.column < indent) && c.isAt '\t' then
      refuse .blockScalar start .tabForIndentation c.mark
    else if c.atAny isBreak then
      let (kept, next) := c.readBreak
      readEmptyLines start indent fuel greatest (breaks ++ kept) next
    else .ok (greatest, breaks, c)

/-- What is known of a block scalar so far. -/
structure Block where
  /-- The text in reverse. -/
  text : List Char
  /-- The break behind the last line. -/
  lastBreak : List Char
  /-- The breaks of the empty lines behind it. -/
  emptyLines : List Char
  /-- Whether the last line starts with a blank. -/
  indented : Bool

/-- The lines of a block scalar. -/
def readBlockLines (literal : Bool) (start : Mark) (indent : Nat) : (fuel : Nat) → Block → Cursor →
    Except Malformed (Block × Cursor)
  | 0, b, c => .ok (b, c)
  | fuel + 1, b, c =>
    if c.mark.column != indent || c.isEnd then .ok (b, c)
    else do
      let blank := c.atAny isBlank
      let joint :=
        if !literal && b.lastBreak == ['\n'] && !b.indented && !blank then
          if b.emptyLines.isEmpty then [' '] else b.emptyLines
        else b.lastBreak ++ b.emptyLines
      let (line, next) := c.takeWhile (!isBreak ·)
      let (lastBreak, next) := next.readBreak
      let (_, emptyLines, next) ← readEmptyLines start indent (next.rest.length + 1) 0 [] next
      readBlockLines literal start indent fuel
        ⟨line.reverse ++ joint.reverse ++ b.text, lastBreak, emptyLines, blank⟩ next

/-- A block scalar inside a block at the given indentation, from its indicator on. -/
def readBlock (literal : Bool) (parentIndent : Int) (c : Cursor) :
    Except Malformed (String × Cursor) := do
  let start := c.mark
  let (chomping, increment, c) ← readHeader start c.advance
  let c ← readLineEnd .blockScalar start c
  let known := if increment = 0 then 0 else (max parentIndent 0).toNat + increment
  let (greatest, breaks, c) ← readEmptyLines start known (c.rest.length + 1) 0 [] c
  let indent := if known = 0 then max greatest (max (parentIndent + 1).toNat 1) else known
  let (b, c) ← readBlockLines literal start indent (c.rest.length + 1) ⟨[], [], breaks, false⟩ c
  let tail := match chomping with
    | .strip => []
    | .clip => b.lastBreak
    | .keep => b.lastBreak ++ b.emptyLines
  return (String.ofList (b.text.reverse ++ tail), c)

end ControlPlane.Yaml
