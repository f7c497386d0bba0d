import ControlPlane.Proofs.Binary64.Value

/-!
# Integers as doubles

A double has 53 bits for an integer. Up to `2 ^ 53` integers are kept as they are; a greater one is
rounded to a multiple of a power of two, so that integers that differ may become equal, while their
order is never turned round.

## Main definitions

* `Binary64.roundedNat`, `Binary64.rounded` : the integer that the nearest double to an integer stands
  for.

## Main statements

* `Binary64.rounded_mono`, `Binary64.rounded_eq_self` : rounding keeps the order, and the
  integers up to `2 ^ 53`.
* `Binary64.value_ofInt` : what a double made from an integer stands for.
* `Binary64.eq_ofInt_iff`, `Binary64.add_ofInt_lt_ofInt_iff`, `Binary64.ofInt_div_ofInt` : such
  doubles compared, added and divided.
* `Binary64.lt_rounded_iff`, `Binary64.rounded_eq_rounded_iff` : comparisons that rounding leaves
  exact.
-/

namespace ControlPlane.Binary64

/-- A natural number with its 53 leading bits, rounded to nearest with ties to even. -/
def roundedNat (n : Nat) : Nat :=
  roundHalfEven n (twoPow (n.log2 - fractionBits)) * twoPow (n.log2 - fractionBits)

/-- The integer that the nearest double to an integer stands for. -/
def rounded (n : Int) : Int := signed (n < 0) (roundedNat n.natAbs)

variable {m n : Int} {a b : Nat}

/-! ### Rounding of integers -/

theorem roundedNat_zero : roundedNat 0 = 0 := rfl

theorem roundedNat_le_twoPow {j : Nat} (h : a ≤ twoPow j) : roundedNat a ≤ twoPow j := by
  rcases Nat.eq_zero_or_pos a with rfl | hpos
  · exact Nat.zero_le _
  have hk : a.log2 - fractionBits ≤ j := by
    have hlog : twoPow a.log2 ≤ twoPow j := (Nat.log2_self_le hpos.ne').trans h
    have := (Nat.pow_le_pow_iff_right (by decide)).1 hlog
    omega
  rw [← twoPow_sub_mul hk] at h ⊢
  exact Nat.mul_le_mul_right _ (roundHalfEven_le (twoPow_pos _) h)

theorem twoPow_log2_le_roundedNat (h : a ≠ 0) : twoPow a.log2 ≤ roundedNat a := by
  rw [← twoPow_sub_mul (Nat.sub_le a.log2 fractionBits)]
  refine Nat.mul_le_mul_right _ (le_roundHalfEven (twoPow_pos _) ?_)
  rw [twoPow_sub_mul (Nat.sub_le _ _)]
  exact Nat.log2_self_le h

theorem roundedNat_pos (h : a ≠ 0) : 0 < roundedNat a :=
  (twoPow_pos _).trans_le (twoPow_log2_le_roundedNat h)

theorem roundedNat_mono (h : a ≤ b) : roundedNat a ≤ roundedNat b := by
  rcases Nat.eq_zero_or_pos a with rfl | hpos
  · exact Nat.zero_le _
  have hb : b ≠ 0 := by omega
  have hlog : a.log2 ≤ b.log2 := (Nat.le_log2 hb).2 ((Nat.log2_self_le hpos.ne').trans h)
  rcases hlog.lt_or_eq with hlt | heq
  · -- A power of two lies between the two.
    calc roundedNat a ≤ twoPow (a.log2 + 1) := roundedNat_le_twoPow Nat.lt_log2_self.le
      _ ≤ twoPow b.log2 := Nat.pow_le_pow_right (by decide) hlt
      _ ≤ roundedNat b := twoPow_log2_le_roundedNat hb
  · unfold roundedNat
    rw [heq]
    exact Nat.mul_le_mul_right _ (roundHalfEven_le_roundHalfEven (twoPow_pos _) (twoPow_pos _)
      (Nat.mul_le_mul_right _ h))

theorem roundedNat_eq_self (h : a ≤ twoPow 53) : roundedNat a = a := by
  rcases h.lt_or_eq with hlt | rfl
  · rcases Nat.eq_zero_or_pos a with rfl | hpos
    · rfl
    have hlog : a.log2 < 53 := (Nat.log2_lt hpos.ne').2 hlt
    have hk : a.log2 - fractionBits = 0 := Nat.sub_eq_zero_of_le (Nat.le_of_lt_succ hlog)
    rw [roundedNat, hk]
    exact (Nat.mul_one _).trans (roundHalfEven_one a)
  · decide

theorem two_mul_natAbs_roundedNat_sub_le {j : Nat} (h : a ≤ twoPow (53 + j)) :
    2 * ((roundedNat a : Int) - a).natAbs ≤ twoPow j := by
  rcases Nat.eq_zero_or_pos a with rfl | hpos
  · exact Nat.zero_le _
  rcases h.lt_or_eq with hlt | heq
  · have hlog : a.log2 < 53 + j := (Nat.log2_lt hpos.ne').2 hlt
    have hk : a.log2 - fractionBits ≤ j := Nat.sub_le_of_le_add (by
      have : fractionBits = 52 := rfl
      omega)
    exact (two_mul_natAbs_roundHalfEven_sub_le a (twoPow_pos _)).trans
      (Nat.pow_le_pow_right (by decide) hk)
  · -- A power of two is kept.
    have hlog : a.log2 = 53 + j := by rw [heq]; exact Nat.log2_two_pow
    have hge := twoPow_log2_le_roundedNat hpos.ne'
    have hle := roundedNat_le_twoPow h
    rw [hlog] at hge
    omega

/-- **Rounding keeps the order.** -/
theorem rounded_mono (h : m ≤ n) : rounded m ≤ rounded n := by
  unfold rounded signed
  by_cases hm : m < 0
  · by_cases hn : n < 0
    · have := roundedNat_mono (show n.natAbs ≤ m.natAbs by omega)
      simp only [hm, hn, decide_true, if_true]
      omega
    · simp only [hm, hn, decide_true, decide_false, if_true, Bool.false_eq_true, if_false]
      omega
  · have := roundedNat_mono (show m.natAbs ≤ n.natAbs by omega)
    simpa [hm, show ¬ n < 0 by omega]

/-- **Integers up to `2 ^ 53` are kept.** -/
theorem rounded_eq_self (h : n.natAbs ≤ twoPow 53) : rounded n = n := by
  rw [rounded, roundedNat_eq_self h, signed]
  by_cases hn : n < 0
  · simp only [hn, decide_true, if_true]
    omega
  · simp only [hn, decide_false, Bool.false_eq_true, if_false]
    omega

theorem natAbs_rounded (n : Int) : (rounded n).natAbs = roundedNat n.natAbs := by
  unfold rounded signed
  split_ifs <;> simp

/-- **Rounding moves an integer of `53 + j` bits by no more than half of `2 ^ j`.** -/
theorem two_mul_natAbs_rounded_sub_le {j : Nat} (h : n.natAbs ≤ twoPow (53 + j)) :
    2 * (rounded n - n).natAbs ≤ twoPow j := by
  have habs := two_mul_natAbs_roundedNat_sub_le h
  have hdiff : (rounded n - n).natAbs = ((roundedNat n.natAbs : Int) - n.natAbs).natAbs := by
    unfold rounded signed
    split_ifs with hn
    · rw [decide_eq_true_eq] at hn
      omega
    · rw [decide_eq_true_eq] at hn
      omega
  rwa [hdiff]

/-- Integers of `53 + j` bits that are rounded to the same are no more than `2 ^ j` apart. -/
theorem natAbs_sub_le_of_rounded_eq {j : Nat} (hm : m.natAbs ≤ twoPow (53 + j))
    (hn : n.natAbs ≤ twoPow (53 + j)) (h : rounded m = rounded n) : (m - n).natAbs ≤ twoPow j := by
  have hm' := two_mul_natAbs_rounded_sub_le hm
  have hn' := two_mul_natAbs_rounded_sub_le hn
  omega

/-- An integer below `2 ^ 53` is before another one exactly when it is before what that is rounded
to. -/
theorem lt_rounded_iff (h : m.natAbs < twoPow 53) : m < rounded n ↔ m < n := by
  constructor
  · intro hlt
    by_contra hge
    have hle := rounded_mono (Int.not_lt.1 hge)
    rw [rounded_eq_self h.le] at hle
    omega
  · intro hlt
    have hle := rounded_mono (Int.add_one_le_of_lt hlt)
    rw [rounded_eq_self (by omega)] at hle
    omega

theorem rounded_lt_iff (h : n.natAbs < twoPow 53) : rounded m < n ↔ m < n := by
  constructor
  · intro hlt
    by_contra hge
    have hle := rounded_mono (Int.not_lt.1 hge)
    rw [rounded_eq_self h.le] at hle
    omega
  · intro hlt
    have hle := rounded_mono (Int.le_sub_one_of_lt hlt)
    rw [rounded_eq_self (n := n - 1) (by omega)] at hle
    omega

/-- Two integers of which one is below `2 ^ 53` are not confused. -/
theorem rounded_eq_rounded_iff (h : m.natAbs < twoPow 53 ∨ n.natAbs < twoPow 53) :
    rounded m = rounded n ↔ m = n := by
  refine ⟨fun heq => ?_, congrArg rounded⟩
  rcases h with h | h
  · have hlt := lt_rounded_iff (n := n) h
    have hgt := rounded_lt_iff (m := n) h
    rw [rounded_eq_self h.le] at heq
    omega
  · have hlt := lt_rounded_iff (n := m) h
    have hgt := rounded_lt_iff (m := m) h
    rw [rounded_eq_self h.le] at heq
    omega

/-! ### Their doubles -/

/-- The count of least positive doubles in one. -/
def unitsOfOne : Nat := twoPow (-leastExponent).toNat

theorem ofInt_eq_ofUnits (n : Int) : ofInt n = ofUnits (n * unitsOfOne) := by
  have hpos : (0 : Int) < unitsOfOne := by exact_mod_cast twoPow_pos _
  have hsign : n * unitsOfOne < 0 ↔ n < 0 := Int.mul_neg_iff.trans (by omega)
  rw [ofInt, ofUnits, nearest, nearest, decide_eq_decide.2 hsign]
  congr 1
  refine nearestMagnitude_congr Nat.one_pos (twoPow_pos _) ?_
  rw [Int.natAbs_mul, Int.natAbs_natCast, Nat.mul_one]
  rfl

/-- A greater integer has no lesser double. -/
theorem rank_ofInt_le_rank_ofInt (h : m ≤ n) : (ofInt m).rank ≤ (ofInt n).rank := by
  rw [ofInt_eq_ofUnits, ofInt_eq_ofUnits]
  exact rank_ofUnits_le_rank_ofUnits (Int.mul_le_mul_of_nonneg_right h (Int.natCast_nonneg _))

theorem zero_lt_ofInt (h : 0 < n) : zero.lt (ofInt n) = true := by
  have hzero : zero.isNaN = false ∧ zero.rank < (ofInt 1).rank := by decide
  rw [lt_iff_rank hzero.1 (isNaN_ofInt n)]
  exact hzero.2.trans_le (rank_ofInt_le_rank_ofInt h)

/-- What is less than the double of an integer is less than that of a greater one. -/
theorem lt_ofInt_mono {x : Binary64} (h : m ≤ n) (hlt : x.lt (ofInt m) = true) :
    x.lt (ofInt n) = true := by
  have hx : x.isNaN = false := by
    by_contra hnan
    simp [lt, hnan] at hlt
  rw [lt_iff_rank hx (isNaN_ofInt _)] at hlt ⊢
  exact hlt.trans_le (rank_ofInt_le_rank_ofInt h)

theorem roundingExponent_one (h : a ≠ 0) :
    roundingExponent a 1 = (a.log2 : Int) - fractionBits := by
  have hbelow : Below a 1 (a.log2 - Nat.log2 1 + 1) := below_log2 Nat.one_pos
  have hnot : ¬ Below a 1 a.log2 := by
    rw [below_iff (i := a.log2) (j := 0) (by omega), Nat.not_lt, Nat.one_mul]
    exact (Nat.log2_self_le h).trans_eq (Nat.mul_one a).symm
  have hlog : Nat.log2 1 = 0 := by decide
  rw [hlog] at hbelow
  have hleast : leastExponent ≤ -fractionBits := by decide
  rw [roundingExponent_eq h Nat.one_pos (e := a.log2 - fractionBits)]
  · omega
  · rwa [show (a.log2 : Int) - fractionBits + fractionBits + 1 = a.log2 - (0 : Nat) + 1 by omega]
  · rwa [show (a.log2 : Int) - fractionBits + fractionBits = a.log2 by omega]

theorem units_nearestMagnitude_one (hfinite : nearestMagnitude a 1 < infiniteMagnitude) :
    units (nearestMagnitude a 1) = roundedNat a * unitsOfOne := by
  by_cases h0 : a = 0
  · rw [h0, nearestMagnitude_zero, units_zero, roundedNat_zero, Nat.zero_mul]
  have hleast : leastExponent ≤ -fractionBits := by decide
  obtain ⟨k, hk⟩ : ∃ k, k = a.log2 - fractionBits := ⟨_, rfl⟩
  rw [units_nearestMagnitude h0 Nat.one_pos hfinite, significand, roundingExponent_one h0,
    Nat.one_mul, roundedNat, unitsOfOne, ← hk,
    show ((a.log2 : Int) - fractionBits).toNat = k by omega, Nat.mul_assoc]
  rcases Nat.eq_zero_or_pos k with rfl | hpos
  · -- All bits fit, and the exponent only moves them.
    have hone : twoPow 0 = 1 := rfl
    rw [hone, roundHalfEven_one, roundHalfEven_one, Nat.one_mul, Nat.mul_assoc,
      ← twoPow_add]
    congr 2
    omega
  · have hneg : (-((a.log2 : Int) - fractionBits)).toNat = 0 := by omega
    have hone : twoPow 0 = 1 := rfl
    rw [hneg, hone, Nat.mul_one, ← twoPow_add]
    congr 2
    omega

/-- **What a double made from an integer stands for.** -/
theorem value_ofInt (h : (ofInt n).isFinite = true) : (ofInt n).value = rounded n * unitsOfOne := by
  have hfinite : nearestMagnitude n.natAbs 1 < infiniteMagnitude := by
    rw [isFinite, ofInt, magnitude_nearest] at h
    exact of_decide_eq_true h
  rw [value, ofInt, isNegative_nearest, magnitude_nearest, units_nearestMagnitude_one hfinite,
    signed_mul, rounded]

/-- Doubles made from integers are ordered like what the integers are rounded to. -/
theorem rank_ofInt_lt_rank_ofInt_iff (hm : (ofInt m).isFinite = true)
    (hn : (ofInt n).isFinite = true) : (ofInt m).rank < (ofInt n).rank ↔ rounded m < rounded n := by
  have hpos : (0 : Int) < unitsOfOne := by exact_mod_cast twoPow_pos _
  rw [rank_lt_rank_iff, value_ofInt hm, value_ofInt hn, Int.mul_lt_mul_right hpos]

theorem eq_ofInt_iff (hm : (ofInt m).isFinite = true) (hn : (ofInt n).isFinite = true) :
    (ofInt m).eq (ofInt n) = true ↔ rounded m = rounded n := by
  have hlt := rank_ofInt_lt_rank_ofInt_iff hm hn
  have hgt := rank_ofInt_lt_rank_ofInt_iff hn hm
  rw [eq_iff_rank (isNaN_ofInt m) (isNaN_ofInt n)]
  omega

/-! ### The range of doubles -/

/-- The greatest integer that is a double. -/
def greatestInteger : Nat := (twoPow 53 - 1) * twoPow 971

/-- An integer that exceeds the greatest double by no more than this is rounded back to it. -/
theorem isFinite_ofInt (h : n.natAbs ≤ greatestInteger + twoPow 64) :
    (ofInt n).isFinite = true := by
  have hle : nearestMagnitude n.natAbs 1 ≤ nearestMagnitude (greatestInteger + twoPow 64) 1 :=
    nearestMagnitude_le_nearestMagnitude Nat.one_pos Nat.one_pos (Nat.mul_le_mul_right _ h)
  have hgreatest : nearestMagnitude (greatestInteger + twoPow 64) 1 < infiniteMagnitude := by
    decide +kernel
  rw [isFinite, ofInt, magnitude_nearest]
  exact decide_eq_true (hle.trans_lt hgreatest)

theorem natAbs_rounded_le_of_isFinite (h : (ofInt n).isFinite = true) :
    (rounded n).natAbs ≤ greatestInteger := by
  rw [isFinite, ofInt, magnitude_nearest] at h
  have hlt : nearestMagnitude n.natAbs 1 < infiniteMagnitude := of_decide_eq_true h
  have hunits := units_strictMono.monotone (Nat.le_sub_one_of_lt hlt)
  have hgreatest : units (infiniteMagnitude - 1) = greatestInteger * unitsOfOne := by
    decide +kernel
  rw [units_nearestMagnitude_one hlt, hgreatest] at hunits
  rw [natAbs_rounded]
  exact Nat.le_of_mul_le_mul_right hunits (twoPow_pos _)

theorem natAbs_rounded_le_twoPow {j : Nat} (h : n.natAbs ≤ twoPow j) :
    (rounded n).natAbs ≤ twoPow j :=
  (natAbs_rounded n).trans_le (roundedNat_le_twoPow h)

/-! ### Sums and quotients -/

/-- **Sums are rounded a second time.** -/
theorem add_ofInt_lt_ofInt_iff {l : Int} (hl : l.natAbs ≤ twoPow 63)
    (hm : (ofInt m).isFinite = true) (hn : n.natAbs ≤ twoPow 63) :
    ((ofInt l).add (ofInt m)).lt (ofInt n) = true ↔
      rounded (rounded l + rounded m) < rounded n := by
  have hbound : twoPow 63 ≤ twoPow 64 := Nat.pow_le_pow_right (by decide) (by decide)
  have hlfin : (ofInt l).isFinite = true := isFinite_ofInt (by omega)
  have hsum : (ofInt (rounded l + rounded m)).isFinite = true := by
    have hl' := natAbs_rounded_le_twoPow hl
    have hm' := natAbs_rounded_le_of_isFinite hm
    exact isFinite_ofInt (by omega)
  rw [lt_iff_rank (isNaN_add hlfin hm) (isNaN_ofInt n), rank_add hlfin hm, value_ofInt hlfin,
    value_ofInt hm, ← Int.add_mul, ← ofInt_eq_ofUnits,
    rank_ofInt_lt_rank_ofInt_iff hsum (isFinite_ofInt (by omega))]

/-- **Quotients are rounded a second time.** -/
theorem ofInt_div_ofInt (hm : (ofInt m).isFinite = true) (hn : (ofInt n).isFinite = true)
    (h0 : n ≠ 0) : (ofInt m).div (ofInt n) =
      nearest (decide (m < 0) != decide (n < 0)) (roundedNat m.natAbs) (roundedNat n.natAbs) := by
  have hunits {l : Int} (hl : (ofInt l).isFinite = true) :
      units (ofInt l).magnitude = roundedNat l.natAbs * unitsOfOne := by
    rw [isFinite, ofInt, magnitude_nearest] at hl
    rw [ofInt, magnitude_nearest, units_nearestMagnitude_one (of_decide_eq_true hl)]
  have hpos : 0 < roundedNat n.natAbs := roundedNat_pos (Int.natAbs_ne_zero.2 h0)
  have hone : 0 < unitsOfOne := twoPow_pos _
  rw [div_eq hm hn (by rw [hunits hn]; exact (Nat.mul_pos hpos hone).ne'), hunits hm, hunits hn,
    ofInt, ofInt, isNegative_nearest, isNegative_nearest, nearest, nearest]
  refine congrArg (ofMagnitude _) (nearestMagnitude_congr (Nat.mul_pos hpos hone) hpos ?_)
  rw [Nat.mul_assoc, Nat.mul_comm unitsOfOne]

/-! ### Fractions -/

theorem zero_le_nearest (num den : Nat) : zero.le (nearest false num den) = true := by
  have hzero : zero.isNaN = false ∧ zero.rank = 0 := by decide
  rw [le_iff_rank hzero.1 (isNaN_nearest _ _ _), hzero.2, rank_nearest]
  exact Int.natCast_nonneg _

/-- A quotient of equals is one. -/
theorem nearest_self {den : Nat} (h : 0 < den) : nearest false den den = ofInt 1 :=
  congrArg (ofMagnitude false) (nearestMagnitude_congr h Nat.one_pos (Nat.mul_comm _ _))

theorem nearest_le_one {num den : Nat} (h : num ≤ den) (hden : 0 < den) :
    (nearest false num den).le (ofInt 1) = true := by
  rw [← nearest_self hden, le_iff_rank (isNaN_nearest _ _ _) (isNaN_nearest _ _ _), rank_nearest,
    rank_nearest]
  exact Int.ofNat_le.2 (nearestMagnitude_le_nearestMagnitude hden hden (Nat.mul_le_mul_right _ h))

end ControlPlane.Binary64
