/-!
# Bytes and their UTF-8 reading

Documents arrive as bytes. The characters of a text are read by core's `String.fromUTF8?`; this
module adds where a text that is not UTF-8 first goes wrong.

## Main definitions

* `Bytes` : a finite sequence of octets.
* `Bytes.wellFormedLength` : the length of the longest beginning that is UTF-8.
* `Bytes.toText?` : the characters, when all bytes are UTF-8.
-/

namespace ControlPlane

/-- A finite sequence of octets. -/
abbrev Bytes := List UInt8

namespace Bytes

/-- The octets of a string. -/
def ofText (s : String) : Bytes := s.toUTF8.toList

/-- The string that the octets encode, if they encode one. -/
def toText? (bytes : Bytes) : Option String := String.fromUTF8? bytes.toByteArray

/-- Whether an octet can only stand inside a sequence. -/
def isContinuation (b : UInt8) : Bool := 0x80 ≤ b && b ≤ 0xbf

/-- Whether two octets start a sequence of three: no overlong form and no surrogate. -/
def startsTriple (lead second : UInt8) : Bool :=
  if lead = 0xe0 then 0xa0 ≤ second && second ≤ 0xbf
  else if lead = 0xed then 0x80 ≤ second && second ≤ 0x9f
  else 0xe1 ≤ lead && lead ≤ 0xef && isContinuation second

/-- Whether two octets start a sequence of four: no overlong form and nothing past the last code
point. -/
def startsQuadruple (lead second : UInt8) : Bool :=
  if lead = 0xf0 then 0x90 ≤ second && second ≤ 0xbf
  else if lead = 0xf4 then 0x80 ≤ second && second ≤ 0x8f
  else 0xf1 ≤ lead && lead ≤ 0xf3 && isContinuation second

/-- The number of octets before the first that starts no well-formed sequence. -/
def wellFormedLength : Bytes → Nat
  | [] => 0
  | a :: rest =>
    if a < 0x80 then wellFormedLength rest + 1
    else match rest with
      | [] => 0
      | b :: rest =>
        if 0xc2 ≤ a && a ≤ 0xdf && isContinuation b then wellFormedLength rest + 2
        else match rest with
          | [] => 0
          | c :: rest =>
            if startsTriple a b && isContinuation c then wellFormedLength rest + 3
            else match rest with
              | [] => 0
              | d :: rest =>
                if startsQuadruple a b && isContinuation c && isContinuation d then
                  wellFormedLength rest + 4
                else 0

end Bytes

end ControlPlane
