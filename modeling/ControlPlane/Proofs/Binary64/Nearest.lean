import ControlPlane.Binary64.Rounding
import Mathlib.Tactic.Ring

/-!
# Rounding keeps the order

The nearest double to a quotient is found in two steps, an exponent and a significand of 53 bits. Each
step keeps the order of quotients, and the first step decides where it separates two of them. So the
magnitude bits of the nearest double increase with the quotient, and they depend on nothing else, in
particular not on how the quotient is written.

## Main definitions

* `Binary64.Below` : a quotient is less than a power of two.
* `Binary64.significand` : the rounded significand of a quotient, before a carry.

## Main statements

* `Binary64.roundHalfEven_le_roundHalfEven` : rounding to natural numbers keeps the order.
* `Binary64.roundingExponent_le_roundingExponent` : the exponent does.
* `Binary64.nearestMagnitude_le_nearestMagnitude` : **so does the nearest double**.
* `Binary64.nearestMagnitude_congr` : the nearest double is that of the quotient.
-/

namespace ControlPlane.Binary64

variable {num den num' den' : Nat}

/-! ### Rounding to natural numbers -/

/-- **Rounding a quotient to a natural number keeps the order.** -/
theorem roundHalfEven_le_roundHalfEven (hden : 0 < den) (hden' : 0 < den')
    (h : num * den' ≤ num' * den) : roundHalfEven num den ≤ roundHalfEven num' den' := by
  have hquot : num / den ≤ num' / den' := by
    rw [Nat.le_div_iff_mul_le hden', ← Nat.mul_le_mul_right_iff hden]
    calc num / den * den' * den = num / den * den * den' := by ring
      _ ≤ num * den' := Nat.mul_le_mul_right _ (Nat.div_mul_le_self num den)
      _ ≤ num' * den := h
  have hlow : num' / den' ≤ roundHalfEven num' den' := by
    unfold roundHalfEven
    dsimp only
    split_ifs <;> omega
  have hhigh : roundHalfEven num den ≤ num / den + 1 := by
    unfold roundHalfEven
    dsimp only
    split_ifs <;> omega
  rcases hquot.lt_or_eq with hlt | heq
  · exact hhigh.trans (Nat.succ_le_of_lt hlt |>.trans hlow)
  · -- One integer part: the remainders are in the order of the quotients.
    have hrem : num % den * den' ≤ num' % den' * den := by
      have hn := Nat.div_add_mod' num den
      have hn' := Nat.div_add_mod' num' den'
      rw [← heq] at hn'
      have hsum : num / den * den * den' + num % den * den' ≤
          num / den * den' * den + num' % den' * den := by
        rw [← Nat.add_mul, ← Nat.add_mul, hn, hn']
        exact h
      have hswap : num / den * den * den' = num / den * den' * den := by ring
      omega
    have htie (hhalf : den ≤ 2 * (num % den)) : den' ≤ 2 * (num' % den') := by
      refine Nat.le_of_mul_le_mul_right ?_ hden
      calc den' * den = den * den' := Nat.mul_comm _ _
        _ ≤ 2 * (num % den) * den' := Nat.mul_le_mul_right _ hhalf
        _ = 2 * (num % den * den') := by ring
        _ ≤ 2 * (num' % den' * den) := Nat.mul_le_mul_left _ hrem
        _ = 2 * (num' % den') * den := by ring
    have hover (hhalf : den < 2 * (num % den)) : den' < 2 * (num' % den') := by
      refine Nat.lt_of_mul_lt_mul_right (a := den) ?_
      calc den' * den = den * den' := Nat.mul_comm _ _
        _ < 2 * (num % den) * den' := Nat.mul_lt_mul_of_pos_right hhalf hden'
        _ = 2 * (num % den * den') := by ring
        _ ≤ 2 * (num' % den' * den) := Nat.mul_le_mul_left _ hrem
        _ = 2 * (num' % den') * den := by ring
    unfold roundHalfEven
    dsimp only
    rw [heq]
    split_ifs <;> omega

/-- A natural number is rounded to itself. -/
theorem roundHalfEven_one (n : Nat) : roundHalfEven n 1 = n := by
  simp [roundHalfEven, Nat.mod_one]

theorem roundHalfEven_le {n : Nat} (hden : 0 < den) (h : num ≤ n * den) :
    roundHalfEven num den ≤ n := by
  simpa only [roundHalfEven_one] using
    roundHalfEven_le_roundHalfEven hden Nat.one_pos (by rwa [Nat.mul_one])

theorem le_roundHalfEven {n : Nat} (hden : 0 < den) (h : n * den ≤ num) :
    n ≤ roundHalfEven num den := by
  simpa only [roundHalfEven_one] using
    roundHalfEven_le_roundHalfEven Nat.one_pos hden (by rwa [Nat.mul_one])

/-- A rounded quotient is at most half away. -/
theorem two_mul_natAbs_roundHalfEven_sub_le (num : Nat) (hden : 0 < den) :
    2 * ((roundHalfEven num den * den : Nat) - (num : Int)).natAbs ≤ den := by
  have hn := Nat.div_add_mod' num den
  have hr := Nat.mod_lt num hden
  have hsucc : (num / den + 1) * den = num / den * den + den := Nat.succ_mul _ _
  have hcases : roundHalfEven num den = num / den ∧ 2 * (num % den) ≤ den ∨
      roundHalfEven num den = num / den + 1 ∧ den ≤ 2 * (num % den) := by
    unfold roundHalfEven
    dsimp only
    split_ifs <;> omega
  rcases hcases with ⟨he, hhalf⟩ | ⟨he, hhalf⟩
  · rw [he]
    omega
  · rw [he, hsucc]
    omega

/-! ### Quotients and powers of two -/

theorem twoPow_pos (n : Nat) : 0 < twoPow n := Nat.two_pow_pos n

theorem twoPow_add (m n : Nat) : twoPow (m + n) = twoPow m * twoPow n := Nat.pow_add 2 m n

theorem twoPow_succ (n : Nat) : twoPow (n + 1) = 2 * twoPow n := Nat.pow_succ'

theorem twoPow_sub_mul {m n : Nat} (h : n ≤ m) : twoPow (m - n) * twoPow n = twoPow m := by
  rw [← twoPow_add, Nat.sub_add_cancel h]

/-- The quotient is less than `2 ^ e`. -/
def Below (num den : Nat) (e : Int) : Prop := num * twoPow (-e).toNat < den * twoPow e.toNat

/-- The power of two may be written as any quotient of two. -/
theorem below_iff {e : Int} {i j : Nat} (h : e = i - j) :
    Below num den e ↔ num * twoPow j < den * twoPow i := by
  have hpow : twoPow i * twoPow (-e).toNat = twoPow e.toNat * twoPow j := by
    rw [← twoPow_add, ← twoPow_add]
    congr 1
    omega
  have hleft : num * twoPow (-e).toNat * twoPow j = num * twoPow j * twoPow (-e).toNat := by ring
  have hright : den * twoPow e.toNat * twoPow j = den * twoPow i * twoPow (-e).toNat := by
    rw [Nat.mul_assoc, ← hpow, Nat.mul_assoc]
  rw [Below, ← Nat.mul_lt_mul_right (twoPow_pos j), hleft, hright,
    Nat.mul_lt_mul_right (twoPow_pos (-e).toNat)]

/-- The comparison by which the exponent is searched for. -/
theorem below_add_iff {e : Int} (k : Nat) : Below num den (e + k) ↔
    num * twoPow (-e).toNat < twoPow k * (den * twoPow e.toNat) := by
  rw [below_iff (i := k + e.toNat) (j := (-e).toNat) (by omega), twoPow_add, Nat.mul_left_comm]

theorem Below.mono {e f : Int} (h : Below num den e) (hef : e ≤ f) : Below num den f := by
  obtain ⟨k, rfl⟩ := Int.le.dest hef
  rw [below_add_iff]
  exact Nat.lt_of_lt_of_le h (Nat.le_mul_of_pos_left _ (twoPow_pos k))

/-- What is not greater than a quotient below a power of two is below it as well. -/
theorem Below.of_le {e : Int} (h : Below num' den' e) (hden : 0 < den)
    (hle : num * den' ≤ num' * den) : Below num den e := by
  refine Nat.lt_of_mul_lt_mul_right (a := den') ?_
  calc num * twoPow (-e).toNat * den' = num * den' * twoPow (-e).toNat := by ring
    _ ≤ num' * den * twoPow (-e).toNat := Nat.mul_le_mul_right _ hle
    _ = num' * twoPow (-e).toNat * den := by ring
    _ < den' * twoPow e.toNat * den := Nat.mul_lt_mul_of_pos_right h hden
    _ = den * twoPow e.toNat * den' := by ring

/-! ### The exponent -/

theorem below_log2 (hden : 0 < den) : Below num den (num.log2 - den.log2 + 1) := by
  rw [below_iff (i := num.log2 + 1) (j := den.log2) (by omega)]
  calc num * twoPow den.log2 < twoPow (num.log2 + 1) * twoPow den.log2 :=
        Nat.mul_lt_mul_of_pos_right Nat.lt_log2_self (twoPow_pos _)
    _ ≤ twoPow (num.log2 + 1) * den := Nat.mul_le_mul_left _ (Nat.log2_self_le hden.ne')
    _ = den * twoPow (num.log2 + 1) := Nat.mul_comm _ _

theorem not_below_log2 (hnum : num ≠ 0) : ¬ Below num den (num.log2 - den.log2 - 1) := by
  rw [below_iff (i := num.log2) (j := den.log2 + 1) (by omega), Nat.not_lt]
  calc den * twoPow num.log2 ≤ twoPow (den.log2 + 1) * twoPow num.log2 :=
        Nat.mul_le_mul_right _ Nat.lt_log2_self.le
    _ ≤ twoPow (den.log2 + 1) * num := Nat.mul_le_mul_left _ (Nat.log2_self_le hnum)
    _ = num * twoPow (den.log2 + 1) := Nat.mul_comm _ _

/-- **The exponent leaves 53 bits to the quotient**, unless it is the least one of all. -/
theorem exists_roundingExponent (hnum : num ≠ 0) (hden : 0 < den) : ∃ exact : Int,
    roundingExponent num den = max exact leastExponent ∧
      Below num den (exact + fractionBits + 1) ∧ ¬ Below num den (exact + fractionBits) := by
  have hbelow : Below num den (num.log2 - den.log2 + 1) := below_log2 hden
  have hnot : ¬ Below num den (num.log2 - den.log2 - 1) := not_below_log2 hnum
  unfold roundingExponent
  dsimp only
  generalize hguess : (num.log2 : Int) - den.log2 - fractionBits = guess
  split_ifs with h
  · rw [← below_add_iff] at h
    refine ⟨_, rfl, ?_, ?_⟩
    · rwa [show guess - 1 + fractionBits + 1 = guess + fractionBits by omega]
    · rwa [show guess - 1 + fractionBits = num.log2 - den.log2 - 1 by omega]
  · rw [← below_add_iff] at h
    refine ⟨_, rfl, ?_, h⟩
    rwa [show guess + fractionBits + 1 = num.log2 - den.log2 + 1 by omega]

theorem leastExponent_le_roundingExponent (num den : Nat) :
    leastExponent ≤ roundingExponent num den := Int.le_max_right _ _

theorem below_roundingExponent (hnum : num ≠ 0) (hden : 0 < den) :
    Below num den (roundingExponent num den + fractionBits + 1) := by
  obtain ⟨exact, he, hbelow, -⟩ := exists_roundingExponent hnum hden
  exact hbelow.mono (by omega)

theorem not_below_roundingExponent (hnum : num ≠ 0) (hden : 0 < den)
    (hleast : leastExponent < roundingExponent num den) :
    ¬ Below num den (roundingExponent num den + fractionBits) := by
  obtain ⟨exact, he, -, hnot⟩ := exists_roundingExponent hnum hden
  rwa [show roundingExponent num den = exact by omega]

/-- Only one exponent leaves 53 bits to the quotient. -/
theorem roundingExponent_eq (hnum : num ≠ 0) (hden : 0 < den) {e : Int}
    (hbelow : Below num den (e + fractionBits + 1)) (hnot : ¬ Below num den (e + fractionBits)) :
    roundingExponent num den = max e leastExponent := by
  obtain ⟨exact, he, hbelow', hnot'⟩ := exists_roundingExponent hnum hden
  have hle : ¬ exact + fractionBits + 1 ≤ e + fractionBits := fun h => hnot (hbelow'.mono h)
  have hge : ¬ e + fractionBits + 1 ≤ exact + fractionBits := fun h => hnot' (hbelow.mono h)
  rw [he, show exact = e by omega]

/-- **The exponent keeps the order of quotients.** -/
theorem roundingExponent_le_roundingExponent (hnum : num ≠ 0) (hden : 0 < den) (hnum' : num' ≠ 0)
    (hden' : 0 < den') (h : num * den' ≤ num' * den) :
    roundingExponent num den ≤ roundingExponent num' den' := by
  have hbelow := (below_roundingExponent hnum' hden').of_le hden h
  have hleast := leastExponent_le_roundingExponent num' den'
  by_contra hlt
  exact not_below_roundingExponent hnum hden (by omega) (hbelow.mono (by omega))

/-! ### The significand -/

/-- The rounded significand of a quotient, before a carry. -/
def significand (num den : Nat) : Nat :=
  roundHalfEven (num * twoPow (-roundingExponent num den).toNat)
    (den * twoPow (roundingExponent num den).toNat)

theorem significand_le (hnum : num ≠ 0) (hden : 0 < den) :
    significand num den ≤ 2 * twoPow fractionBits := by
  have h := below_roundingExponent hnum hden
  rw [Int.add_assoc, ← Nat.cast_one, ← Nat.cast_add, below_add_iff] at h
  rw [← twoPow_succ]
  exact roundHalfEven_le (Nat.mul_pos hden (twoPow_pos _)) h.le

theorem le_significand (hnum : num ≠ 0) (hden : 0 < den)
    (hleast : leastExponent < roundingExponent num den) :
    twoPow fractionBits ≤ significand num den := by
  have h := not_below_roundingExponent hnum hden hleast
  rw [below_add_iff, Nat.not_lt] at h
  exact le_roundHalfEven (Nat.mul_pos hden (twoPow_pos _)) h

/-! ### The nearest double -/

theorem nearestMagnitude_zero (den : Nat) : nearestMagnitude 0 den = 0 := if_pos rfl

theorem nearestMagnitude_eq (hnum : num ≠ 0) : nearestMagnitude num den =
    min ((roundingExponent num den - leastExponent).toNat * twoPow fractionBits +
      significand num den) infiniteMagnitude := if_neg hnum

theorem nearestMagnitude_le (num den : Nat) : nearestMagnitude num den ≤ infiniteMagnitude := by
  by_cases hnum : num = 0
  · rw [hnum, nearestMagnitude_zero]
    exact Nat.zero_le _
  · rw [nearestMagnitude_eq hnum]
    exact Nat.min_le_right _ _

/-- **The nearest double keeps the order of quotients.** -/
theorem nearestMagnitude_le_nearestMagnitude (hden : 0 < den) (hden' : 0 < den')
    (h : num * den' ≤ num' * den) : nearestMagnitude num den ≤ nearestMagnitude num' den' := by
  by_cases hnum : num = 0
  · rw [hnum, nearestMagnitude_zero]
    exact Nat.zero_le _
  have hnum' : num' ≠ 0 := by
    rintro rfl
    rw [Nat.zero_mul] at h
    exact absurd (Nat.le_zero.1 h) (Nat.mul_ne_zero hnum hden'.ne')
  rw [nearestMagnitude_eq hnum, nearestMagnitude_eq hnum']
  refine le_min ((Nat.min_le_left _ _).trans ?_) (Nat.min_le_right _ _)
  have hleast := leastExponent_le_roundingExponent num den
  rcases (roundingExponent_le_roundingExponent hnum hden hnum' hden' h).lt_or_eq with hlt | heq
  · -- A carry leads to the least significand of the next exponent at most.
    calc (roundingExponent num den - leastExponent).toNat * twoPow fractionBits +
          significand num den
        ≤ (roundingExponent num den - leastExponent).toNat * twoPow fractionBits +
          2 * twoPow fractionBits := Nat.add_le_add_left (significand_le hnum hden) _
      _ = ((roundingExponent num den - leastExponent).toNat + 1) * twoPow fractionBits +
          twoPow fractionBits := by ring
      _ ≤ (roundingExponent num' den' - leastExponent).toNat * twoPow fractionBits +
          significand num' den' :=
        Nat.add_le_add (Nat.mul_le_mul_right _ (by omega)) (le_significand hnum' hden' (by omega))
  · rw [← heq]
    refine Nat.add_le_add_left ?_ _
    unfold significand
    rw [← heq]
    refine roundHalfEven_le_roundHalfEven (Nat.mul_pos hden (twoPow_pos _))
      (Nat.mul_pos hden' (twoPow_pos _)) ?_
    rw [Nat.mul_mul_mul_comm, Nat.mul_mul_mul_comm num']
    exact Nat.mul_le_mul_right _ h

/-- The nearest double depends on the quotient alone. -/
theorem nearestMagnitude_congr (hden : 0 < den) (hden' : 0 < den') (h : num * den' = num' * den) :
    nearestMagnitude num den = nearestMagnitude num' den' :=
  Nat.le_antisymm (nearestMagnitude_le_nearestMagnitude hden hden' h.le)
    (nearestMagnitude_le_nearestMagnitude hden' hden h.ge)

end ControlPlane.Binary64
