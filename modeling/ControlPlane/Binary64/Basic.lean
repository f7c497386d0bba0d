/-!
# Doubles as bit patterns

A double is kept as its 64 bits, and every operation on it is exact arithmetic on what those bits
stand for, so that rounding happens in one place only (`ControlPlane.Binary64.Rounding`).

## Main definitions

* `Binary64.classify` : what a bit pattern stands for.
* `Binary64.rank` : an integer that orders the doubles other than NaN.
* `Binary64.lt`, `Binary64.le`, `Binary64.eq` : the comparisons, all false on NaN.
-/

namespace ControlPlane

/-- A double-precision number of IEEE 754, kept as its bits. -/
structure Binary64 where
  /-- Sign, eleven bits of exponent and 52 bits of fraction, from the highest bit down. -/
  bits : UInt64
deriving DecidableEq, Inhabited, Repr

namespace Binary64

/-- What a bit pattern stands for; `finite s m q` is `m * 2 ^ q`, negated when `s` is set. -/
inductive Datum where
  | nan
  | infinite (negative : Bool)
  | finite (negative : Bool) (significand : Nat) (exponent : Int)
deriving DecidableEq, Repr

/-- A power of two. -/
def twoPow (n : Nat) : Nat := Nat.pow 2 n

/-- A power of ten. -/
def tenPow (n : Nat) : Nat := Nat.pow 10 n

/-- The number of fraction bits. -/
def fractionBits : Nat := 52

/-- The exponent of the least positive double. -/
def leastExponent : Int := -1074

/-- The weight of the sign bit. -/
def signBit : Nat := twoPow 63

/-- The magnitude bits of infinity: all exponent bits set and no fraction. -/
def infiniteMagnitude : Nat := 2047 * twoPow fractionBits

/-- Whether the sign bit is set. -/
def isNegative (x : Binary64) : Bool := signBit ≤ x.bits.toNat

/-- The bits below the sign bit. -/
def magnitude (x : Binary64) : Nat := x.bits.toNat % signBit

/-- The double with the given sign and magnitude bits. -/
def ofMagnitude (negative : Bool) (magnitude : Nat) : Binary64 :=
  ⟨UInt64.ofNat (magnitude + if negative then signBit else 0)⟩

/-- Positive zero. -/
def zero : Binary64 := ⟨0⟩

/-- The quiet NaN with a clear sign bit. -/
def nan : Binary64 := ofMagnitude false (infiniteMagnitude + twoPow 51)

/-- The infinity of the given sign. -/
def infinity (negative : Bool) : Binary64 := ofMagnitude negative infiniteMagnitude

/-- Reads the bits: an exponent field of zero has no hidden bit, one of all ones is no number. -/
def classify (x : Binary64) : Datum :=
  let exponent := x.magnitude / twoPow fractionBits
  let fraction := x.magnitude % twoPow fractionBits
  if exponent = 2047 then
    if fraction = 0 then .infinite x.isNegative else .nan
  else if exponent = 0 then .finite x.isNegative fraction leastExponent
  else .finite x.isNegative (fraction + twoPow fractionBits) (exponent - 1 + leastExponent)

/-- Whether the bits stand for no number at all. -/
def isNaN (x : Binary64) : Bool := infiniteMagnitude < x.magnitude

/-- Whether the bits stand for a real number. -/
def isFinite (x : Binary64) : Bool := x.magnitude < infiniteMagnitude

/-- The magnitude bits with the sign applied. Doubles other than NaN are ordered like their ranks,
and the two zeros share the rank zero. -/
def rank (x : Binary64) : Int :=
  if x.isNegative then -(x.magnitude : Int) else x.magnitude

/-- Numerically less; false when either side is NaN. -/
def lt (x y : Binary64) : Bool := !x.isNaN && !y.isNaN && x.rank < y.rank

/-- Numerically less or equal; false when either side is NaN. -/
def le (x y : Binary64) : Bool := !x.isNaN && !y.isNaN && x.rank ≤ y.rank

/-- Numerically equal: the zeros are equal and NaN is equal to nothing. -/
def eq (x y : Binary64) : Bool := !x.isNaN && !y.isNaN && x.rank == y.rank

end Binary64

end ControlPlane
