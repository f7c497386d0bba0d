import ControlPlane.Proofs.Binary64.Nearest
import Mathlib.Order.Monotone.Basic
import Mathlib.Tactic.Ring

/-!
# The values of doubles

Each finite double is a whole number of the least positive one. Counted in it, values increase with
ranks, the sum of two doubles is the nearest double to the sum of their values, and their quotient is
the nearest double to the quotient of their values.

## Main definitions

* `Binary64.units`, `Binary64.value` : the value of magnitude bits and of a double, counted in the
  least positive double.
* `Binary64.ofUnits` : the nearest double to such a count.

## Main statements

* `Binary64.units_strictMono`, `Binary64.rank_lt_rank_iff` : ranks order doubles by their values.
* `Binary64.rank_ofUnits_le_rank_ofUnits` : a greater count has no lesser double.
* `Binary64.rank_add`, `Binary64.div_eq` : sums and quotients in terms of values.
-/

namespace ControlPlane.Binary64

/-- The value of magnitude bits, counted in the least positive double. -/
def units (magnitude : Nat) : Nat :=
  let exponent := magnitude / twoPow fractionBits
  let fraction := magnitude % twoPow fractionBits
  if exponent = 0 then fraction else (fraction + twoPow fractionBits) * twoPow (exponent - 1)

/-- The value of a finite double, counted in the least positive one. -/
def value (x : Binary64) : Int := signed x.isNegative (units x.magnitude)

/-- The nearest double to a count of least positive doubles. -/
def ofUnits (n : Int) : Binary64 := nearest (n < 0) n.natAbs (twoPow (-leastExponent).toNat)

variable {x y : Binary64} {num den : Nat}

/-! ### Magnitudes -/

theorem units_mul_add_of_lt {exponent fraction : Nat} (h : fraction < twoPow fractionBits) :
    units (exponent * twoPow fractionBits + fraction) = if exponent = 0 then fraction else
      (fraction + twoPow fractionBits) * twoPow (exponent - 1) := by
  have hdiv : (exponent * twoPow fractionBits + fraction) / twoPow fractionBits = exponent := by
    rw [Nat.mul_comm, Nat.mul_add_div (twoPow_pos _), Nat.div_eq_of_lt h, Nat.add_zero]
  have hmod : (exponent * twoPow fractionBits + fraction) % twoPow fractionBits = fraction := by
    rw [Nat.mul_comm, Nat.mul_add_mod, Nat.mod_eq_of_lt h]
  unfold units
  dsimp only
  rw [hdiv, hmod]

theorem units_zero : units 0 = 0 := rfl

/-- **The value increases with the magnitude bits.** -/
theorem units_strictMono : StrictMono units := by
  refine strictMono_nat_of_lt_succ fun magnitude => ?_
  obtain ⟨exponent, fraction, hf, rfl⟩ : ∃ exponent fraction, fraction < twoPow fractionBits ∧
      magnitude = exponent * twoPow fractionBits + fraction :=
    ⟨_, _, Nat.mod_lt _ (twoPow_pos _), (Nat.div_add_mod' _ _).symm⟩
  rw [units_mul_add_of_lt hf]
  rcases Nat.lt_or_ge (fraction + 1) (twoPow fractionBits) with hlt | hge
  · rw [Nat.add_assoc, units_mul_add_of_lt hlt]
    split_ifs with h0
    · exact Nat.lt_succ_self _
    · exact Nat.mul_lt_mul_of_pos_right (by omega) (twoPow_pos _)
  · -- The last fraction of an exponent is followed by the first one of the next.
    have hnext : exponent * twoPow fractionBits + fraction + 1 =
        (exponent + 1) * twoPow fractionBits + 0 := by
      rw [Nat.add_assoc, show fraction + 1 = twoPow fractionBits by omega]
      ring
    rw [hnext, units_mul_add_of_lt (twoPow_pos _), if_neg (Nat.succ_ne_zero _), Nat.zero_add,
      Nat.add_sub_cancel]
    split_ifs with h0
    · rw [h0]
      exact hf.trans_eq (Nat.mul_one _).symm
    · rw [show exponent = exponent - 1 + 1 by omega, Nat.add_sub_cancel]
      calc (fraction + twoPow fractionBits) * twoPow (exponent - 1)
          < 2 * twoPow fractionBits * twoPow (exponent - 1) :=
            Nat.mul_lt_mul_of_pos_right (by omega) (twoPow_pos _)
        _ = twoPow fractionBits * twoPow (exponent - 1 + 1) := by
            rw [twoPow_succ]
            ring

/-- A significand at an exponent, which it may exceed by a carry. -/
theorem units_mul_add {k s : Nat} (hlow : k = 0 ∨ twoPow fractionBits ≤ s)
    (hhigh : s ≤ 2 * twoPow fractionBits) :
    units (k * twoPow fractionBits + s) = s * twoPow k := by
  rcases Nat.lt_or_ge s (twoPow fractionBits) with hlt | hge
  · rw [units_mul_add_of_lt hlt, if_pos (hlow.resolve_right (by omega)),
      hlow.resolve_right (by omega)]
    exact (Nat.mul_one s).symm
  rcases hhigh.lt_or_eq with hlt | rfl
  · obtain ⟨f, rfl⟩ := Nat.exists_eq_add_of_le' hge
    rw [Nat.add_comm f, ← Nat.add_assoc, ← Nat.succ_mul, units_mul_add_of_lt (by omega),
      if_neg (Nat.succ_ne_zero _), Nat.succ_sub_one, Nat.add_comm f]
  · rw [show k * twoPow fractionBits + 2 * twoPow fractionBits =
        (k + 2) * twoPow fractionBits + 0 by ring, units_mul_add_of_lt (twoPow_pos _),
      if_neg (Nat.succ_ne_zero _), Nat.zero_add, show k + 2 - 1 = k + 1 by omega,
      twoPow_succ]
    ring

/-- The nearest double to a quotient stands for its significand at its exponent. -/
theorem units_nearestMagnitude (hnum : num ≠ 0) (hden : 0 < den)
    (hfinite : nearestMagnitude num den < infiniteMagnitude) :
    units (nearestMagnitude num den) =
      significand num den * twoPow (roundingExponent num den - leastExponent).toNat := by
  have hleast := leastExponent_le_roundingExponent num den
  rw [nearestMagnitude_eq hnum] at hfinite ⊢
  rw [Nat.min_eq_left (by omega)]
  refine units_mul_add ?_ (significand_le hnum hden)
  rcases hleast.lt_or_eq with hlt | heq
  · exact .inr (le_significand hnum hden hlt)
  · exact .inl (by omega)

/-! ### Bits -/

theorem infiniteMagnitude_lt_signBit : infiniteMagnitude < signBit := by decide

theorem toNat_bits_ofMagnitude (negative : Bool) {m : Nat} (h : m < signBit) :
    (ofMagnitude negative m).bits.toNat = m + if negative then signBit else 0 := by
  rw [ofMagnitude, UInt64.toNat_ofNat']
  refine Nat.mod_eq_of_lt ?_
  have hbits : signBit + signBit = 2 ^ 64 := by decide
  split_ifs <;> omega

theorem magnitude_ofMagnitude (negative : Bool) {m : Nat} (h : m < signBit) :
    (ofMagnitude negative m).magnitude = m := by
  rw [magnitude, toNat_bits_ofMagnitude negative h]
  split_ifs
  · rw [Nat.add_mod_right, Nat.mod_eq_of_lt h]
  · rw [Nat.add_zero, Nat.mod_eq_of_lt h]

theorem isNegative_ofMagnitude (negative : Bool) {m : Nat} (h : m < signBit) :
    (ofMagnitude negative m).isNegative = negative := by
  rw [isNegative, toNat_bits_ofMagnitude negative h]
  cases negative
  · exact decide_eq_false (by simpa using h)
  · exact decide_eq_true (Nat.le_add_left _ _)

theorem magnitude_nearest (negative : Bool) (num den : Nat) :
    (nearest negative num den).magnitude = nearestMagnitude num den :=
  magnitude_ofMagnitude negative ((nearestMagnitude_le num den).trans_lt infiniteMagnitude_lt_signBit)

theorem isNegative_nearest (negative : Bool) (num den : Nat) :
    (nearest negative num den).isNegative = negative :=
  isNegative_ofMagnitude negative
    ((nearestMagnitude_le num den).trans_lt infiniteMagnitude_lt_signBit)

theorem rank_nearest (negative : Bool) (num den : Nat) :
    (nearest negative num den).rank = signed negative (nearestMagnitude num den) := by
  rw [rank, isNegative_nearest, magnitude_nearest]
  rfl

/-- What is nearest to a quotient is a number or infinite. -/
theorem isNaN_nearest (negative : Bool) (num den : Nat) :
    (nearest negative num den).isNaN = false := by
  rw [isNaN, magnitude_nearest]
  exact decide_eq_false (nearestMagnitude_le num den).not_gt

theorem isNaN_ofInt (n : Int) : (ofInt n).isNaN = false := isNaN_nearest _ _ _

/-! ### The order -/

theorem lt_iff_rank (hx : x.isNaN = false) (hy : y.isNaN = false) :
    x.lt y = true ↔ x.rank < y.rank := by
  simp [lt, hx, hy]

theorem le_iff_rank (hx : x.isNaN = false) (hy : y.isNaN = false) :
    x.le y = true ↔ x.rank ≤ y.rank := by
  simp [le, hx, hy]

theorem eq_iff_rank (hx : x.isNaN = false) (hy : y.isNaN = false) :
    x.eq y = true ↔ x.rank = y.rank := by
  simp [Binary64.eq, hx, hy]

protected theorem le_trans {z : Binary64} (hxy : x.le y = true) (hyz : y.le z = true) :
    x.le z = true := by
  simp only [le, Bool.and_eq_true, decide_eq_true_eq] at hxy hyz ⊢
  exact ⟨⟨hxy.1.1, hyz.1.2⟩, hxy.2.trans hyz.2⟩

theorem not_le_of_le_of_lt {z : Binary64} (hxy : x.le y = true) (hyz : y.lt z = true) :
    ¬ z.le x = true := by
  simp only [le, lt, Bool.and_eq_true, decide_eq_true_eq] at hxy hyz ⊢
  omega

/-- **Ranks order doubles by their values.** -/
theorem rank_lt_rank_iff : x.rank < y.rank ↔ x.value < y.value := by
  have hlt := units_strictMono.lt_iff_lt (a := x.magnitude) (b := y.magnitude)
  have hgt := units_strictMono.lt_iff_lt (a := y.magnitude) (b := x.magnitude)
  have hx := units_strictMono.lt_iff_lt (a := 0) (b := x.magnitude)
  have hy := units_strictMono.lt_iff_lt (a := 0) (b := y.magnitude)
  rw [units_zero] at hx hy
  unfold rank value signed
  split_ifs <;> omega

/-- **A greater count has no lesser double.** -/
theorem rank_ofUnits_le_rank_ofUnits {m n : Int} (h : m ≤ n) :
    (ofUnits m).rank ≤ (ofUnits n).rank := by
  have hpos : 0 < twoPow (-leastExponent).toNat := twoPow_pos _
  have hmono {a b : Nat} (hab : a ≤ b) :=
    nearestMagnitude_le_nearestMagnitude hpos hpos (Nat.mul_le_mul_right _ hab)
  rw [ofUnits, ofUnits, rank_nearest, rank_nearest]
  by_cases hm : m < 0
  · by_cases hn : n < 0
    · have := hmono (show n.natAbs ≤ m.natAbs by omega)
      simp only [signed, hm, hn, decide_true, if_true]
      omega
    · simp [signed, hm, hn]
  · have := hmono (show m.natAbs ≤ n.natAbs by omega)
    have hn : ¬ n < 0 := by omega
    simpa [signed, hm, hn]

/-! ### Sums and quotients -/

/-- What the bits of a finite double stand for is its value. -/
theorem exists_classify_of_isFinite (h : x.isFinite = true) : ∃ m k : Nat,
    x.classify = .finite x.isNegative m (k + leastExponent) ∧ units x.magnitude = m * twoPow k := by
  have hexp : x.magnitude / twoPow fractionBits ≠ 2047 := by
    have hlt : x.magnitude / twoPow fractionBits < 2047 :=
      Nat.div_lt_of_lt_mul (Nat.mul_comm _ _ ▸ of_decide_eq_true h)
    omega
  unfold classify units
  dsimp only
  rw [if_neg hexp]
  split_ifs with h0
  · exact ⟨_, 0, by simp, (Nat.mul_one _).symm⟩
  · refine ⟨_, x.magnitude / twoPow fractionBits - 1, ?_, rfl⟩
    rw [Nat.cast_sub (Nat.one_le_iff_ne_zero.2 h0), Nat.cast_one]

theorem signed_mul (negative : Bool) (m n : Nat) :
    signed negative (m * n) = signed negative m * n := by
  unfold signed
  split_ifs <;> push_cast <;> ring

/-- A scaled integer is rounded like the count that it stands for. -/
theorem rank_ofScaled (zeroNegative : Bool) (n : Int) (c : Nat) :
    (ofScaled zeroNegative n (c + leastExponent)).rank = (ofUnits (n * twoPow c)).rank := by
  rw [ofScaled, ofUnits, rank_nearest, rank_nearest]
  have hmag : nearestMagnitude (n.natAbs * twoPow (c + leastExponent).toNat)
      (twoPow (-(c + leastExponent)).toNat) =
        nearestMagnitude (n * twoPow c).natAbs (twoPow (-leastExponent).toNat) := by
    refine nearestMagnitude_congr (twoPow_pos _) (twoPow_pos _) ?_
    have hleast : leastExponent ≤ 0 := by decide
    rw [Int.natAbs_mul, Int.natAbs_natCast, Nat.mul_assoc, Nat.mul_assoc, ← twoPow_add,
      ← twoPow_add]
    congr 2
    omega
  rw [hmag]
  by_cases h0 : n = 0
  · simp [h0, nearestMagnitude_zero, signed]
  · have hpos : (0 : Int) < twoPow c := by exact_mod_cast twoPow_pos c
    have hsign : n * twoPow c < 0 ↔ n < 0 := Int.mul_neg_iff.trans (by omega)
    rw [if_neg h0, decide_eq_decide.2 hsign]

/-- **The sum of two doubles is nearest to the sum of their values**, but for the sign of zero. -/
theorem rank_add (hx : x.isFinite = true) (hy : y.isFinite = true) :
    (x.add y).rank = (ofUnits (x.value + y.value)).rank := by
  obtain ⟨m, k, hcx, hm⟩ := exists_classify_of_isFinite hx
  obtain ⟨n, l, hcy, hn⟩ := exists_classify_of_isFinite hy
  -- Both significands are brought to the lesser exponent.
  obtain ⟨c, hck, hcl, hc⟩ : ∃ c, c ≤ k ∧ c ≤ l ∧
      min ((k : Int) + leastExponent) (l + leastExponent) = c + leastExponent :=
    ⟨min k l, by omega, by omega, by omega⟩
  have hshift (i : Nat) (hi : c ≤ i) :
      ((i : Int) + leastExponent - (c + leastExponent)).toNat = i - c := by omega
  rw [add, hcx, hcy]
  dsimp only
  rw [hc, hshift k hck, hshift l hcl, rank_ofScaled, value, value, hm, hn, ← twoPow_sub_mul hck,
    ← twoPow_sub_mul hcl, ← Nat.mul_assoc, ← Nat.mul_assoc, signed_mul, signed_mul, signed_mul,
    signed_mul, add_mul]

theorem isNaN_add (hx : x.isFinite = true) (hy : y.isFinite = true) :
    (x.add y).isNaN = false := by
  obtain ⟨m, k, hcx, -⟩ := exists_classify_of_isFinite hx
  obtain ⟨n, l, hcy, -⟩ := exists_classify_of_isFinite hy
  rw [add, hcx, hcy]
  exact isNaN_nearest _ _ _

/-- **The quotient of two doubles is nearest to the quotient of their values.** -/
theorem div_eq (hx : x.isFinite = true) (hy : y.isFinite = true) (h0 : units y.magnitude ≠ 0) :
    x.div y = nearest (x.isNegative != y.isNegative) (units x.magnitude) (units y.magnitude) := by
  obtain ⟨m, k, hcx, hm⟩ := exists_classify_of_isFinite hx
  obtain ⟨n, l, hcy, hn⟩ := exists_classify_of_isFinite hy
  have hn0 : n ≠ 0 := by
    rintro rfl
    exact h0 (by rw [hn, Nat.zero_mul])
  rw [div, hcx, hcy]
  dsimp only
  rw [if_neg hn0, nearest, nearest, hm, hn]
  congr 1
  refine nearestMagnitude_congr (Nat.mul_pos (Nat.pos_of_ne_zero hn0) (twoPow_pos _))
    (Nat.mul_pos (Nat.pos_of_ne_zero hn0) (twoPow_pos _)) ?_
  rw [Nat.mul_mul_mul_comm, Nat.mul_mul_mul_comm m (twoPow k), ← twoPow_add, ← twoPow_add]
  congr 2
  omega

end ControlPlane.Binary64
