import ControlPlane.Yaml.Cursor

/-!
# Why a text is not YAML

## Main definitions

* `Yaml.Problem`, `Yaml.Context` : what is wrong, and what was being read.
* `Yaml.Malformed` : a problem with its places, and the wording.
-/

namespace ControlPlane.Yaml

/-- What is wrong. -/
inductive Problem where
  | colonExpected
  | blockEntryNotAllowed
  | keyNotAllowed
  | valueNotAllowed
  | noToken
  | unknownDirective
  | commentOrBreakExpected
  | directiveNameExpected
  | nonAlphabetical
  | versionTooLong
  | versionExpected
  | digitOrPointExpected
  | whitespaceExpected
  | whitespaceOrBreakExpected
  | alphanumericExpected
  | closingAngleExpected
  | exclamationExpected
  | tagExpected
  | escapedOctetExpected
  | leadingOctet
  | trailingOctet
  | zeroIndentation
  | tabForIndentation
  | documentMark
  | endOfStream
  | unknownEscape
  | hexadecimalExpected
  | invalidCodePoint
  | unexpectedColon
  | tabViolatesIndentation
  | documentStartExpected
  | duplicateVersion
  | incompatible
  | duplicateTagHandle
  | undefinedTagHandle
  | nodeExpected
  | dashExpected
  | keyExpected
  | commaOrBracketExpected
  | commaOrBraceExpected
  | unknownAnchor
deriving DecidableEq, Repr

/-- The wording of a problem. -/
def Problem.message : Problem → String
  | .colonExpected => "could not find expected ':'"
  | .blockEntryNotAllowed => "block sequence entries are not allowed in this context"
  | .keyNotAllowed => "mapping keys are not allowed in this context"
  | .valueNotAllowed => "mapping values are not allowed in this context"
  | .noToken => "found character that cannot start any token"
  | .unknownDirective => "found unknown directive name"
  | .commentOrBreakExpected => "did not find expected comment or line break"
  | .directiveNameExpected => "could not find expected directive name"
  | .nonAlphabetical => "found unexpected non-alphabetical character"
  | .versionTooLong => "found extremely long version number"
  | .versionExpected => "did not find expected version number"
  | .digitOrPointExpected => "did not find expected digit or '.' character"
  | .whitespaceExpected => "did not find expected whitespace"
  | .whitespaceOrBreakExpected => "did not find expected whitespace or line break"
  | .alphanumericExpected => "did not find expected alphabetic or numeric character"
  | .closingAngleExpected => "did not find the expected '>'"
  | .exclamationExpected => "did not find expected '!'"
  | .tagExpected => "did not find expected tag URI"
  | .escapedOctetExpected => "did not find URI escaped octet"
  | .leadingOctet => "found an incorrect leading UTF-8 octet"
  | .trailingOctet => "found an incorrect trailing UTF-8 octet"
  | .zeroIndentation => "found an indentation indicator equal to 0"
  | .tabForIndentation => "found a tab character where an indentation space is expected"
  | .documentMark => "found unexpected document indicator"
  | .endOfStream => "found unexpected end of stream"
  | .unknownEscape => "found unknown escape character"
  | .hexadecimalExpected => "did not find expected hexadecimal number"
  | .invalidCodePoint => "found invalid Unicode character escape code"
  | .unexpectedColon => "found unexpected ':'"
  | .tabViolatesIndentation => "found a tab character that violates indentation"
  | .documentStartExpected => "did not find expected <document start>"
  | .duplicateVersion => "found duplicate %YAML directive"
  | .incompatible => "found incompatible YAML document"
  | .duplicateTagHandle => "found duplicate %TAG directive"
  | .undefinedTagHandle => "found undefined tag handle"
  | .nodeExpected => "did not find expected node content"
  | .dashExpected => "did not find expected '-' indicator"
  | .keyExpected => "did not find expected key"
  | .commaOrBracketExpected => "did not find expected ',' or ']'"
  | .commaOrBraceExpected => "did not find expected ',' or '\x7d'"
  | .unknownAnchor => "unknown anchor"

/-- What was being read. -/
inductive Context where
  | simpleKey
  | nextToken
  | directive
  | versionDirective
  | tagDirective
  | tagDirectivePrefix
  | tagDirectiveHandle
  | tagDirectiveStart
  | tag
  | tagSuffix
  | anchor
  | alias
  | blockScalar
  | quotedScalar
  | quotedEscape
  | plainScalar
  | node
  | blockNode
  | flowNode
  | blockCollection
  | blockMapping
  | flowSequence
  | flowMapping
deriving DecidableEq, Repr

/-- The wording of a context. -/
def Context.message : Context → String
  | .simpleKey => "while scanning a simple key"
  | .nextToken => "while scanning for the next token"
  | .directive => "while scanning a directive"
  | .versionDirective => "while scanning a %YAML directive"
  | .tagDirective => "while scanning a %TAG directive"
  | .tagDirectivePrefix => "while parsing a %TAG directive"
  | .tagDirectiveHandle => "while parsing a tag directive"
  | .tagDirectiveStart => "while scanning a tag directive"
  | .tag => "while scanning a tag"
  | .tagSuffix => "while parsing a tag"
  | .anchor => "while scanning an anchor"
  | .alias => "while scanning an alias"
  | .blockScalar => "while scanning a block scalar"
  | .quotedScalar => "while scanning a quoted scalar"
  | .quotedEscape => "while parsing a quoted scalar"
  | .plainScalar => "while scanning a plain scalar"
  | .node => "while parsing a node"
  | .blockNode => "while parsing a block node"
  | .flowNode => "while parsing a flow node"
  | .blockCollection => "while parsing a block collection"
  | .blockMapping => "while parsing a block mapping"
  | .flowSequence => "while parsing a flow sequence"
  | .flowMapping => "while parsing a flow mapping"

/-- Why a text is not YAML. -/
inductive Malformed where
  /-- A control character, with the number of bytes before it. -/
  | controlCharacter (offset : Nat)
  /-- A problem at a place, in the course of something that starts at another. -/
  | problem (cause : Problem) (mark : Mark) (within : Option (Context × Mark))
deriving DecidableEq, Repr

/-- The wording of the refusal. The start of the text is not worth mentioning, nor is the place of
the context when it is that of the problem. -/
def Malformed.message : Malformed → String
  | .controlCharacter offset =>
    "control characters are not allowed" ++
      if offset = 0 then "" else " at position " ++ toString offset
  | .problem cause mark within =>
    cause.message ++ (if mark.isStart then "" else " at " ++ mark.text) ++
      match within with
      | none => ""
      | some (context, start) =>
        ", " ++ context.message ++
          if start.isStart || (start.line == mark.line && start.column == mark.column) then ""
          else " at " ++ start.text

/-- The place of the problem, or the start of the text if it has none. -/
def Malformed.mark : Malformed → Mark
  | .controlCharacter _ => ⟨0, 0, 0⟩
  | .problem _ mark _ => mark

/-- Refuses a text. -/
def refuse {α : Type} (context : Context) (start : Mark) (cause : Problem) (mark : Mark) :
    Except Malformed α :=
  .error (.problem cause mark (some (context, start)))

end ControlPlane.Yaml
