import ControlPlane.Proofs.Binary64.Integer
import ControlPlane.Proofs.Lifecycle.LineUp
import ControlPlane.Wire.OfJson

/-!
# How much windows overlap

The overlap of two windows is a quotient of two lengths. Both are differences that saturate at the
ends of the range of 64 bits and are cut off below zero, and still what two windows share is never
longer than the shorter of them, not even where one of the two lengths is cut off. So the quotient is
a fraction of one, whichever way round the windows are taken, and it is one if one window contains
the other. A threshold above one is reached by no overlap, and what is left is containment.

## Main definitions

* `Window.saturated` : an integer cut off at the ends of the range of 64 bits.
* `Window.OverlapLengths`, `Window.OverlapFraction` : what holds of the lengths and of their quotient.
* `Lifecycle.ContainedIfSuperseded` : a line by which a state is superseded through containment only.

## Main statements

* `Window.overlapLengths`, `Window.overlapFraction` : they hold of any two windows.
* `Window.supersedes_iff_contains` : beyond a threshold of one only containment counts.
* `Lifecycle.overlap_laws` : the laws of overlap together, and what they mean for the index.
-/

namespace ControlPlane

open Binary64 (ofInt roundedNat)

namespace Window

/-- An integer cut off at the ends of the range of 64 bits. -/
def saturated (n : Int) : Int := max Wire.OfJson.leastInt64 (min greatestLength n)

/-- What holds of the lengths of which the overlap of two windows is the quotient. -/
structure OverlapLengths (a b : Window) : Prop where
  /-- What two windows share is a difference that saturates, cut off below zero. -/
  intersection_eq : a.intersection b =
    max 0 (saturated (min a.endTs b.endTs - max a.startTs b.startTs))
  shorter_eq : a.shorter b =
    min (max 0 (saturated (a.endTs - a.startTs))) (max 0 (saturated (b.endTs - b.startTs)))
  intersection_nonneg : 0 ≤ a.intersection b
  intersection_le_shorter : a.intersection b ≤ a.shorter b
  shorter_le : a.shorter b ≤ greatestLength
  intersection_comm : a.intersection b = b.intersection a
  shorter_comm : a.shorter b = b.shorter a
  /-- If one window contains the other, they share as much as the shorter one has. -/
  intersection_eq_shorter : a.Contains b ∨ b.Contains a → a.intersection b = a.shorter b

/-- What holds of their quotient. -/
structure OverlapFraction (a b : Window) : Prop where
  /-- The quotient is taken when no window is empty, and then the divisor is positive. -/
  eq_div : a.duration ≠ 0 → b.duration ≠ 0 → 0 < a.shorter b ∧
    Binary64.zero.lt (ofInt (a.shorter b)) = true ∧
    a.overlapRatio b = (ofInt (a.intersection b)).div (ofInt (a.shorter b))
  eq_zero : a.duration = 0 ∨ b.duration = 0 → a.overlapRatio b = .zero
  comm : a.overlapRatio b = b.overlapRatio a
  isNaN_eq : (a.overlapRatio b).isNaN = false
  zero_le : Binary64.zero.le (a.overlapRatio b) = true
  le_one : (a.overlapRatio b).le (ofInt 1) = true
  /-- It is one if one window contains the other and none is empty. -/
  eq_one : a.duration ≠ 0 → b.duration ≠ 0 → a.Contains b ∨ b.Contains a →
    a.overlapRatio b = ofInt 1

variable {a b : Window} {start finish : Int}

/-! ### Lengths -/

theorem span_eq_max_saturated (start finish : Int) :
    span start finish = max 0 (saturated (finish - start)) := by
  unfold span saturated greatestLength Wire.OfJson.leastInt64
  omega

theorem span_nonneg (start finish : Int) : 0 ≤ span start finish := by
  unfold span greatestLength
  omega

theorem span_le (start finish : Int) : span start finish ≤ greatestLength := Int.min_le_left _ _

/-- What lies within a time is no longer. -/
theorem span_le_span {start' finish' : Int} (hstart : start' ≤ start) (hfinish : finish ≤ finish') :
    span start finish ≤ span start' finish' := by
  unfold span
  omega

theorem duration_nonneg (w : Window) : 0 ≤ w.duration := span_nonneg _ _

theorem intersection_comm (a b : Window) : a.intersection b = b.intersection a := by
  rw [intersection, intersection, Int.max_comm, Int.min_comm]

theorem shorter_comm (a b : Window) : a.shorter b = b.shorter a := Int.min_comm _ _

theorem intersection_le_duration (a b : Window) : a.intersection b ≤ a.duration :=
  span_le_span (Int.le_max_left _ _) (Int.min_le_left _ _)

theorem intersection_le_shorter (a b : Window) : a.intersection b ≤ a.shorter b :=
  Int.le_min.2 ⟨intersection_le_duration a b,
    intersection_comm a b ▸ intersection_le_duration b a⟩

/-- What a window shares with one that it contains is all of that, and that is the shorter one. -/
theorem Contains.intersection_eq_shorter (h : a.Contains b) : a.intersection b = a.shorter b := by
  have hshared : a.intersection b = b.duration := by
    rw [intersection, Int.max_eq_right h.1, Int.min_eq_right h.2, duration]
  have hshorter : a.shorter b = b.duration := Int.min_eq_right (span_le_span h.1 h.2)
  rw [hshared, hshorter]

theorem shorter_pos (ha : a.duration ≠ 0) (hb : b.duration ≠ 0) : 0 < a.shorter b :=
  Int.lt_min.2 ⟨(duration_nonneg a).lt_of_ne' ha, (duration_nonneg b).lt_of_ne' hb⟩

/-- **The lengths of which the overlap is the quotient.** -/
theorem overlapLengths (a b : Window) : OverlapLengths a b where
  intersection_eq := span_eq_max_saturated _ _
  shorter_eq := by
    rw [shorter, duration, duration, span_eq_max_saturated, span_eq_max_saturated]
  intersection_nonneg := span_nonneg _ _
  intersection_le_shorter := intersection_le_shorter a b
  shorter_le := (Int.min_le_left _ _).trans (span_le _ _)
  intersection_comm := intersection_comm a b
  shorter_comm := shorter_comm a b
  intersection_eq_shorter h := by
    rcases h with h | h
    · exact h.intersection_eq_shorter
    · rw [intersection_comm, shorter_comm, h.intersection_eq_shorter]

/-! ### Their quotient -/

/-- Lengths are within the range of doubles. -/
theorem isFinite_ofInt_of_le {n : Int} (h : 0 ≤ n) (hle : n ≤ greatestLength) :
    (ofInt n).isFinite = true := by
  have hrange : greatestLength < Binary64.twoPow 64 := by decide
  exact Binary64.isFinite_ofInt (by omega)

/-- Where no window is empty, the overlap is nearest to the quotient of the rounded lengths. -/
theorem overlapRatio_eq_nearest (ha : a.duration ≠ 0) (hb : b.duration ≠ 0) :
    a.overlapRatio b = .nearest false (roundedNat (a.intersection b).natAbs)
      (roundedNat (a.shorter b).natAbs) := by
  have hpos := shorter_pos ha hb
  have hlengths := overlapLengths a b
  have hnum : (ofInt (a.intersection b)).isFinite = true :=
    isFinite_ofInt_of_le hlengths.intersection_nonneg
      (hlengths.intersection_le_shorter.trans hlengths.shorter_le)
  have hden : (ofInt (a.shorter b)).isFinite = true :=
    isFinite_ofInt_of_le hpos.le hlengths.shorter_le
  rw [overlapRatio, if_neg (not_or.2 ⟨ha, hb⟩), Binary64.ofInt_div_ofInt hnum hden hpos.ne',
    decide_eq_false hlengths.intersection_nonneg.not_gt, decide_eq_false hpos.le.not_gt]
  rfl

/-- **The overlap is nearest to a fraction of one.** -/
theorem exists_overlapRatio_eq (a b : Window) : ∃ num den : Nat, num ≤ den ∧ 0 < den ∧
    a.overlapRatio b = .nearest false num den := by
  by_cases hempty : a.duration = 0 ∨ b.duration = 0
  · refine ⟨0, 1, Nat.zero_le _, Nat.one_pos, ?_⟩
    rw [overlapRatio, if_pos hempty]
    decide
  · obtain ⟨ha, hb⟩ := not_or.1 hempty
    have hpos := shorter_pos ha hb
    have hlengths := overlapLengths a b
    have hnonneg := hlengths.intersection_nonneg
    have hle := hlengths.intersection_le_shorter
    exact ⟨_, _, Binary64.roundedNat_mono (by omega), Binary64.roundedNat_pos (by omega),
      overlapRatio_eq_nearest ha hb⟩

theorem overlapRatio_comm (a b : Window) : a.overlapRatio b = b.overlapRatio a := by
  rw [overlapRatio, overlapRatio, intersection_comm, shorter_comm]
  exact if_congr or_comm rfl rfl

theorem overlapRatio_le_one (a b : Window) : (a.overlapRatio b).le (ofInt 1) = true := by
  obtain ⟨num, den, hle, hden, he⟩ := exists_overlapRatio_eq a b
  rw [he]
  exact Binary64.nearest_le_one hle hden

/-- **The overlap of two windows is a fraction of one.** -/
theorem overlapFraction (a b : Window) : OverlapFraction a b where
  eq_div ha hb := by
    have hpos := shorter_pos ha hb
    exact ⟨hpos, Binary64.zero_lt_ofInt hpos, if_neg (not_or.2 ⟨ha, hb⟩)⟩
  eq_zero h := if_pos h
  comm := overlapRatio_comm a b
  isNaN_eq := by
    obtain ⟨num, den, -, -, he⟩ := exists_overlapRatio_eq a b
    rw [he]
    exact Binary64.isNaN_nearest _ _ _
  zero_le := by
    obtain ⟨num, den, -, -, he⟩ := exists_overlapRatio_eq a b
    rw [he]
    exact Binary64.zero_le_nearest _ _
  le_one := overlapRatio_le_one a b
  eq_one ha hb h := by
    have hpos := shorter_pos ha hb
    rw [overlapRatio_eq_nearest ha hb, (overlapLengths a b).intersection_eq_shorter h]
    exact Binary64.nearest_self (Binary64.roundedNat_pos (by omega))

/-- Both lengths may be cut off: these windows overlap in full, and neither contains the other. -/
example : (Window.mk (-9223372036854775808) 9223372036854775806).overlapRatio
    ⟨-9223372036854775807, 9223372036854775807⟩ = ofInt 1 := by
  decide +kernel

/-- **Beyond a threshold of one only containment counts.** -/
theorem supersedes_iff_contains {newer older : Window} {ratio : Binary64}
    (h : (ofInt 1).lt ratio = true) :
    newer.supersedes older ratio = true ↔ newer.Contains older := by
  rw [Lifecycle.supersedes_iff, or_iff_left]
  exact Binary64.not_le_of_le_of_lt (overlapRatio_le_one older newer) h

end Window

namespace Lifecycle

/-- The line of a state. If it says that the state is superseded, then by one of the batch that has
the same key and a window that contains the window of the state. -/
structure ContainedIfSuperseded (states : List ProblemState) (s : ProblemState) (row : Row) :
    Prop where
  id_eq : row.id = s.id
  exists_contains : row.state = .superseded → ∃ t ∈ states, t.key = s.key ∧
    row.supersededBy = some t.id ∧ t.window.Contains s.window

variable {constants : LifecycleConstants} {frozen : KeySet} {states later : List ProblemState}
  {asOf : Int} {s : ProblemState}

theorem containedIfSuperseded_rowOf (h : (ofInt 1).lt constants.mergeOverlap = true)
    (hlater : HasLater states s later) :
    ContainedIfSuperseded states s (rowOf constants frozen asOf s later) := by
  refine ⟨rowOf_id, fun hsuperseded => ?_⟩
  obtain ⟨t, hsup⟩ := exists_supersessor?_of_state_rowOf hsuperseded
  obtain ⟨ht, hkey⟩ := hlater.mem_of_supersessor? hsup
  refine ⟨t, ht, hkey, ?_, ?_⟩
  · rw [rowOf_of_some hsup]
  · exact (Window.supersedes_iff_contains h).1 (supersedes_of_supersessor?_eq_some hsup)

/-- **The laws of overlap.** The lengths are bounded, their quotient is a fraction of one, and in an
index whose threshold is greater than one every superseded state is contained in another one. -/
theorem overlap_laws : (∀ a b : Window, a.OverlapLengths b ∧ a.OverlapFraction b) ∧
    ∀ (constants : LifecycleConstants) (frozen : KeySet) (states : List ProblemState) (asOf : Int),
      (ofInt 1).lt constants.mergeOverlap = true →
      ∃ line : List ProblemState, line.Perm states ∧ List.Forall₂ (ContainedIfSuperseded states)
        line (index constants frozen states asOf) :=
  ⟨fun a b => ⟨Window.overlapLengths a b, Window.overlapFraction a b⟩,
    fun _ _ _ _ h => exists_forall₂_index fun _ _ => containedIfSuperseded_rowOf h⟩

theorem overlap_laws_coveredPair : (ofInt 1).lt (ofInt 2) = true ∧
    (∃ line : List ProblemState, line.Perm coveredPair ∧
      List.Forall₂ (ContainedIfSuperseded coveredPair) line
        (index ⟨.ofInt 2, .ofInt 5⟩ .empty coveredPair 25)) ∧
    index ⟨.ofInt 2, .ofInt 5⟩ .empty coveredPair 25 =
      [⟨"ps-1", .superseded, some "ps-2"⟩, ⟨"ps-2", .active, none⟩] := by
  have hthreshold : (ofInt 1).lt (ofInt 2) = true := by decide
  refine ⟨hthreshold, overlap_laws.2 ⟨.ofInt 2, .ofInt 5⟩ .empty coveredPair 25 hthreshold, ?_⟩
  rw [index_eq_insertionSort]
  decide +kernel

end Lifecycle

end ControlPlane
