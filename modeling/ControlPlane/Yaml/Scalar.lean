import ControlPlane.Wire.Mismatch
import ControlPlane.Yaml.Cursor

/-!
# Scalars and what they stand for

A scalar without a tag that is not quoted stands for null, a truth value, a number or a text, in
this order. The words have three spellings each. A tag may say which of them is meant.

## Main definitions

* `Yaml.Scalar` : scalars.
* `Yaml.integer?`, `Yaml.float?` : the numbers.
* `Yaml.Scalar.mismatch` : why a scalar is not what is wanted.
-/

namespace ControlPlane.Yaml

/-- A scalar. -/
structure Scalar where
  tag : Option String
  text : String
  /-- Whether it is neither quoted nor a block. -/
  plain : Bool
deriving DecidableEq, Repr

/-- The null that a text says. -/
def isNull (text : String) : Bool := ["null", "Null", "NULL", "~"].contains text

/-- The truth value that a text says. -/
def boolean? (text : String) : Option Bool :=
  if ["true", "True", "TRUE"].contains text then some true
  else if ["false", "False", "FALSE"].contains text then some false
  else none

/-! ### Numbers -/

/-- A text without its sign, and whether that is a minus. -/
def splitSign (text : List Char) : Bool × List Char :=
  match text with
  | '-' :: rest => (true, rest)
  | '+' :: rest => (false, rest)
  | _ => (false, text)

/-- The number that digits of a base say; there is at least one. -/
def natural? (base : Nat) (digits : List Char) : Option Nat :=
  if digits.isEmpty then none
  else
    ((digits.mapM hexValue?).filter fun values => values.all (· < base)).map fun values =>
      values.foldl (fun n d => base * n + d) 0

/-- Digits that start with a zero and go on are a text. -/
def isPadded (digits : List Char) : Bool :=
  1 < digits.length && digits.head? == some '0' && digits.all Char.isDigit

/-- The number of an unsigned numeral. -/
def magnitude? (numeral : List Char) : Option Nat :=
  match numeral with
  | '0' :: 'x' :: digits => natural? 16 digits
  | '0' :: 'o' :: digits => natural? 8 digits
  | '0' :: 'b' :: digits => natural? 2 digits
  | digits => if isPadded digits then none else natural? 10 digits

/-- The integer that a text says. -/
def integer? (text : String) : Option Int :=
  let (negative, numeral) := splitSign text.toList
  (magnitude? numeral).map fun n => if negative then -(n : Int) else n

/-- The power of ten behind the digits of a decimal; nothing says zero. -/
def exponent? : List Char → Option Int
  | [] => some 0
  | mark :: rest =>
    if mark == 'e' || mark == 'E' then
      let (negative, digits) := splitSign rest
      if digits.all Char.isDigit then
        (natural? 10 digits).map fun n => if negative then -(n : Int) else n
      else none
    else none

/-- The double that an unsigned decimal says. There is a digit before the point or behind it. -/
def decimal? (negative : Bool) (numeral : List Char) : Option Binary64 :=
  let whole := numeral.takeWhile Char.isDigit
  let rest := numeral.dropWhile Char.isDigit
  let (fraction, rest) := match rest with
    | '.' :: rest => (rest.takeWhile Char.isDigit, rest.dropWhile Char.isDigit)
    | _ => ([], rest)
  match natural? 10 (whole ++ fraction), exponent? rest with
  | some digits, some exponent => Binary64.ofDecimal? negative digits (exponent - fraction.length)
  | _, _ => none

/-- The double that a text says. -/
def float? (text : String) : Option Binary64 :=
  let (negative, numeral) := splitSign text.toList
  if [".inf", ".Inf", ".INF"].contains (String.ofList numeral) then some (.infinity negative)
  else if [".nan", ".NaN", ".NAN"].contains text then some .nan
  else decimal? negative numeral

/-! ### Messages -/

/-- Floats in messages have no exponent. -/
def messageNumeral : NumeralStyle := ⟨-400, 400, true, true⟩

/-- What messages call an integer. The names of large ones tell how many bits they need; an integer
that has no name stands for a float. -/
def foundInteger? (n : Int) : Option Wire.Found :=
  let large (type : String) : Wire.Found :=
    .described ("integer " ++ Wire.ticked (toString n) ++ " as " ++ type)
  if Json.leastInteger ≤ n ∧ n < Json.integerBound then some (.integer n)
  else if 0 ≤ n then
    if n < 340282366920938463463374607431768211456 then some (large "u128") else none
  else if -170141183460469231731687303715884105728 ≤ n then some (large "i128")
  else none

/-- What messages call a float. -/
def foundFloat (x : Binary64) : Wire.Found :=
  let numeral := match x.classify with
    | .nan => "NaN"
    | .infinite negative => if negative then "-inf" else "inf"
    | .finite _ _ _ => (x.numeral? messageNumeral).getD ""
  .described ("floating point " ++ Wire.ticked numeral)

/-- What messages call null. -/
def foundNull : Wire.Found := .described "unit value"

/-- What messages call a text that is neither quoted nor has a tag. -/
def foundPlain (text : String) : Wire.Found :=
  if text.isEmpty || isNull text then foundNull
  else match boolean? text with
    | some b => .boolean b
    | none =>
      match (integer? text).bind foundInteger? with
      | some found => found
      | none =>
        if isPadded (splitSign text.toList).2 then .text text
        else match float? text with
          | some x => foundFloat x
          | none => .text text

/-- The types that tags name, as messages call them, and the values that texts say in them. -/
def taggedTypes : List (String × String × (String → Option Wire.Found)) := [
  ("bool", "a boolean", fun text => (boolean? text).map .boolean),
  ("int", "an integer", fun text => (integer? text).bind foundInteger?),
  ("float", "a float", fun text => (float? text).map foundFloat),
  ("null", "null", fun text => if isNull text then some foundNull else none)]

/-- Why a scalar is not what is wanted. One that its tag does not fit is said to be a wrong value.
-/
def Scalar.mismatch (s : Scalar) (wanted : String) : Wire.Mismatch :=
  let untagged : Wire.Found := if s.plain then foundPlain s.text else .text s.text
  match s.tag with
  | none => .wrongType untagged wanted
  | some tag =>
    match taggedTypes.find? fun t => tag == "tag:yaml.org,2002:" ++ t.1 with
    | some (_, name, read?) =>
      match read? s.text with
      | some found => .wrongType found wanted
      | none => .wrongValue (.text s.text) name
    | none => .wrongType (if tag.startsWith "!" then untagged else .text s.text) wanted

end ControlPlane.Yaml
