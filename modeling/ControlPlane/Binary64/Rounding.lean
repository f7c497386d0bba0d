import ControlPlane.Binary64.Basic

/-!
# Rounding to the nearest double

Every double that this library computes is the nearest one to an exact rational, with ties going to
the even significand. The rational is given as a quotient of natural numbers and a sign.

This includes the doubles that decimal numerals stand for. For these `serde_json` promises no more
than its best effort unless it is built with `float_roundtrip`, so that on a numeral of many digits
it may read a neighbour of the double that is read here.

## Main definitions

* `Binary64.roundHalfEven` : a quotient rounded to the nearest natural number.
* `Binary64.nearest` : the double nearest to a quotient.
* `Binary64.ofInt`, `Binary64.add`, `Binary64.div` : conversion, sum and quotient.
* `Binary64.ofDecimal?` : the double nearest to a decimal numeral.
-/

namespace ControlPlane.Binary64

/-- The natural number nearest to `num / den`; a half goes to the even neighbour. -/
def roundHalfEven (num den : Nat) : Nat :=
  let quotient := num / den
  let remainder := num % den
  if 2 * remainder < den then quotient
  else if 2 * remainder = den then quotient + quotient % 2
  else quotient + 1

/-- The exponent of the double nearest to `num / den`, before a carry: the quotient by this power of
two has 53 bits, or fewer where doubles end. -/
def roundingExponent (num den : Nat) : Int :=
  let guess : Int := (num.log2 : Int) - den.log2 - fractionBits
  let exact :=
    if num * twoPow (-guess).toNat < twoPow fractionBits * (den * twoPow guess.toNat) then guess - 1
    else guess
  max exact leastExponent

/-- The magnitude bits of the double nearest to `num / den`. A significand that rounds up to the
next power of two carries into the exponent field, and a value too large is infinite. -/
def nearestMagnitude (num den : Nat) : Nat :=
  if num = 0 then 0
  else
    let exponent := roundingExponent num den
    let significand := roundHalfEven (num * twoPow (-exponent).toNat) (den * twoPow exponent.toNat)
    min ((exponent - leastExponent).toNat * twoPow fractionBits + significand) infiniteMagnitude

/-- The double nearest to `num / den`, negated when `negative` is set. -/
def nearest (negative : Bool) (num den : Nat) : Binary64 :=
  ofMagnitude negative (nearestMagnitude num den)

/-- The double nearest to an integer. -/
def ofInt (n : Int) : Binary64 := nearest (n < 0) n.natAbs 1

/-- The double nearest to `n * 2 ^ exponent`, with the sign of zero given apart. -/
def ofScaled (zeroNegative : Bool) (n : Int) (exponent : Int) : Binary64 :=
  nearest (if n = 0 then zeroNegative else n < 0) (n.natAbs * twoPow exponent.toNat)
    (twoPow (-exponent).toNat)

/-- The significand with its sign. -/
def signed (negative : Bool) (significand : Nat) : Int :=
  if negative then -(significand : Int) else significand

/-- The rounded sum. Infinities of opposite signs have none. -/
def add (x y : Binary64) : Binary64 :=
  match x.classify, y.classify with
  | .nan, _ | _, .nan => nan
  | .infinite s, .infinite t => if s = t then infinity s else nan
  | .infinite s, _ | _, .infinite s => infinity s
  | .finite s m p, .finite t n q =>
    let least := min p q
    let sum := signed s m * twoPow (p - least).toNat + signed t n * twoPow (q - least).toNat
    ofScaled (s && t) sum least

/-- The rounded quotient. Zero by zero and infinite by infinite have none. -/
def div (x y : Binary64) : Binary64 :=
  match x.classify, y.classify with
  | .nan, _ | _, .nan => nan
  | .infinite _, .infinite _ => nan
  | .infinite s, .finite t _ _ => infinity (s != t)
  | .finite s _ _, .infinite t => nearest (s != t) 0 1
  | .finite s m p, .finite t n q =>
    if n = 0 then if m = 0 then nan else infinity (s != t)
    else nearest (s != t) (m * twoPow (p - q).toNat) (n * twoPow (q - p).toNat)

/-- The number of decimal digits of a natural number; zero has one. -/
def digitCount (n : Nat) : Nat := (Nat.toDigits 10 n).length

/-- The double nearest to `digits * 10 ^ exponent`, or nothing when that is infinite. Powers of ten
far outside the range of doubles are decided without computing them. -/
def ofDecimal? (negative : Bool) (digits : Nat) (exponent : Int) : Option Binary64 :=
  if digits = 0 then some (nearest negative 0 1)
  else if 310 < exponent then none
  else if exponent + digitCount digits < -330 then some (nearest negative 0 1)
  else
    let x := nearest negative (digits * tenPow exponent.toNat) (tenPow (-exponent).toNat)
    if x.isFinite then some x else none

end ControlPlane.Binary64
