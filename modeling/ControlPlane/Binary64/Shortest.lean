import ControlPlane.Binary64.Rounding

/-!
# The fewest digits that read back

The text of a double is the decimal of fewest digits among those that round to it, and of these the
nearest to it. Both are found by exact arithmetic: for one digit, two digits and so on, the two
neighbours of the value on that decimal grid are tested for lying in the interval of reals that
round to the double.

## Main definitions

* `Binary64.shortest` : the digits and the power of ten.
* `NumeralStyle` : where positional notation ends and how whole numbers and zero are written.
* `Binary64.numeral` : the text of a double in a style.
-/

namespace ControlPlane

namespace Binary64

/-- A decimal numeral `digits * 10 ^ exponent`. -/
structure Decimal where
  digits : Nat
  exponent : Int
deriving DecidableEq, Repr

/-- Drops trailing zeros of the digits; `fuel` bounds how many. -/
def Decimal.trim : (fuel : Nat) → Decimal → Decimal
  | 0, d => d
  | fuel + 1, d =>
    if d.digits ≠ 0 ∧ d.digits % 10 = 0 then trim fuel ⟨d.digits / 10, d.exponent + 1⟩ else d

/-- The greatest `e` with `10 ^ e ≤ num / den`, for positive arguments. -/
def decimalExponent (num den : Nat) : Int :=
  if den ≤ num then (digitCount (num / den) : Int) - 1
  else -(digitCount ((den + num - 1) / num - 1) : Int)

/-- The reals that round to a double, as quotients over one denominator, with the value between the
ends. The ends belong to the interval when `closed` is set. -/
structure Interval where
  lower : Nat
  value : Nat
  upper : Nat
  den : Nat
  closed : Bool
deriving Repr

/-- The interval of a positive double `m * 2 ^ q`. Its ends are half way to the neighbours; below a
power of two the neighbour is half as far away. A tie rounds to the even significand. -/
def Interval.of (m : Nat) (q : Int) : Interval :=
  let unit := twoPow (q - 2).toNat
  let below := if m = twoPow fractionBits ∧ leastExponent < q then 1 else 2
  { lower := (4 * m - below) * unit
    value := 4 * m * unit
    upper := (4 * m + 2) * unit
    den := twoPow (2 - q).toNat
    closed := m % 2 = 0 }

/-- Whether `digits * 10 ^ exponent` rounds to the double of the interval. -/
def Interval.contains (i : Interval) (d : Decimal) : Bool :=
  let point := d.digits * tenPow d.exponent.toNat * i.den
  let scale := tenPow (-d.exponent).toNat
  if i.closed then i.lower * scale ≤ point ∧ point ≤ i.upper * scale
  else i.lower * scale < point ∧ point < i.upper * scale

/-- The decimal on the grid of `10 ^ exponent` that rounds to the double and is nearest to its
value, if there is one. Only the value's two neighbours on the grid can be it. -/
def Interval.onGrid (i : Interval) (exponent : Int) : Option Decimal :=
  let num := i.value * tenPow (-exponent).toNat
  let den := i.den * tenPow exponent.toNat
  let low : Decimal := ⟨num / den, exponent⟩
  let high : Decimal := ⟨num / den + 1, exponent⟩
  match i.contains low, i.contains high with
  | true, true => some ⟨roundHalfEven num den, exponent⟩
  | true, false => some low
  | false, true => some high
  | false, false => none

/-- The shortest decimal that rounds to the positive double `m * 2 ^ q`; seventeen digits always
suffice. -/
def shortest (m : Nat) (q : Int) : Decimal :=
  let i := Interval.of m q
  let leading := decimalExponent i.value i.den
  let found := (List.range 17).findSome? fun (count : Nat) => i.onGrid (leading - count)
  (found.getD ⟨0, 0⟩).trim 17

end Binary64

/-- How a double is written. -/
structure NumeralStyle where
  /-- The least power of ten of the first digit that is written positionally. -/
  leastPositional : Int
  /-- The least power of ten of the first digit that is written with an exponent again. -/
  firstScientific : Int
  /-- Whether a whole number in positional notation ends in a point and a zero. -/
  wholeFraction : Bool
  /-- Whether the sign of zero is written. -/
  signedZero : Bool
deriving DecidableEq, Repr

namespace NumeralStyle

/-- Digits with a point `places` before their end, padded with zeros on either side. -/
def positional (style : NumeralStyle) (digits : String) (exponent : Int) : String :=
  if 0 ≤ exponent then
    digits ++ String.ofList (List.replicate exponent.toNat '0') ++
      if style.wholeFraction then ".0" else ""
  else
    let places := (-exponent).toNat
    let padded := List.replicate (places + 1 - digits.length) '0' ++ digits.toList
    let whole := padded.length - places
    String.ofList (padded.take whole) ++ "." ++ String.ofList (padded.drop whole)

/-- One digit, a point before the others, and the signed power of ten. -/
def scientific (digits : String) (power : Int) : String :=
  let tail := digits.toList.drop 1
  String.ofList (digits.toList.take 1) ++
    (if tail.isEmpty then "" else "." ++ String.ofList tail) ++
    (if power < 0 then "e-" else "e+") ++ toString power.natAbs

/-- The text of a positive decimal. -/
def decimal (style : NumeralStyle) (d : Binary64.Decimal) : String :=
  let digits := toString d.digits
  let power := d.exponent + digits.length - 1
  if style.leastPositional ≤ power ∧ power < style.firstScientific then
    style.positional digits d.exponent
  else scientific digits power

end NumeralStyle

namespace Binary64

/-- The text of a double in a style, or nothing when it is no number. -/
def numeral? (style : NumeralStyle) (x : Binary64) : Option String :=
  match x.classify with
  | .nan | .infinite _ => none
  | .finite negative m q =>
    if m = 0 then
      some ((if negative && style.signedZero then "-" else "") ++
        if style.wholeFraction then "0.0" else "0")
    else some ((if negative then "-" else "") ++ style.decimal (shortest m q))

end Binary64

end ControlPlane
