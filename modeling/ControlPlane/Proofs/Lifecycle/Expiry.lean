import ControlPlane.Proofs.Anchor.Document
import ControlPlane.Proofs.Binary64.Integer
import ControlPlane.Proofs.Lifecycle.LineUp

/-!
# Time and expiry

As time goes on a batch changes in one way only: what was active expires. A state expires when the
time lies behind the end of its window by more than the grace period, and this is decided in doubles,
where the end, the period, their sum and the time are each rounded. Below `2 ^ 53` nothing is rounded
and the boundary is sharp. Beyond it, a state may still be active one millisecond behind the boundary,
or expired at the boundary, but for integers of 64 bits no further away than 2560 milliseconds.

## Main definitions

* `Window.SharpAt` : rounding does not matter for a window at a time.
* `Lifecycle.Ages` : what becomes of a line as time goes on.
* `Lifecycle.ExpiresAt` : a line against the boundary of its state.

## Main statements

* `Window.isExpired_ofInt_iff` : the boundary in terms of integers.
* `Lifecycle.ages_index` : as time goes on, active states expire and nothing else changes.
* `Lifecycle.exists_expiresAt_index` : each line against the boundary of its state.
-/

namespace ControlPlane

open Binary64 (rounded twoPow)

namespace Window

/-- Rounding does not matter for the boundary of a window at a time: the end, the grace period and
their sum do not exceed `2 ^ 53`, or the time is far from the boundary. -/
def SharpAt (w : Window) (grace asOf : Int) : Prop :=
  (w.endTs.natAbs ≤ 2 ^ 53 ∧ grace.natAbs ≤ 2 ^ 53 ∧ (w.endTs + grace).natAbs < 2 ^ 53) ∨
    (grace.natAbs ≤ 2 ^ 63 ∧ 2560 < (asOf - (w.endTs + grace)).natAbs)

variable {w : Window} {grace asOf later : Int} {gracePeriod : Binary64}

/-- What has expired stays expired. -/
theorem isExpired_mono (h : asOf ≤ later) (hexp : w.isExpired asOf gracePeriod = true) :
    w.isExpired later gracePeriod = true := Binary64.lt_ofInt_mono h hexp

/-- **The boundary in terms of integers**: each is rounded, and so is the sum. -/
theorem isExpired_ofInt_iff (hend : Wire.OfJson.FitsInt64 w.endTs)
    (hasOf : Wire.OfJson.FitsInt64 asOf) (hgrace : (Binary64.ofInt grace).isFinite = true) :
    w.isExpired asOf (.ofInt grace) = true ↔
      rounded (rounded w.endTs + rounded grace) < rounded asOf :=
  Binary64.add_ofInt_lt_ofInt_iff hend.natAbs_le hgrace hasOf.natAbs_le

/-- **The boundary is sharp where rounding does not matter.** -/
theorem SharpAt.rounded_lt_iff (h : w.SharpAt grace asOf) (hend : Wire.OfJson.FitsInt64 w.endTs)
    (hasOf : Wire.OfJson.FitsInt64 asOf) :
    rounded (rounded w.endTs + rounded grace) < rounded asOf ↔ w.endTs + grace < asOf := by
  rcases h with ⟨hend', hgrace, hsum⟩ | ⟨hgrace, hfar⟩
  · rw [Binary64.rounded_eq_self hend', Binary64.rounded_eq_self hgrace,
      Binary64.rounded_eq_self hsum.le]
    exact Binary64.lt_rounded_iff hsum
  · -- Each of the four roundings moves the comparison by its share.
    have hshare : twoPow 10 = 1024 ∧ twoPow 11 = 2048 ∧ twoPow 64 = twoPow 63 + twoPow 63 := by
      decide
    have he := Binary64.two_mul_natAbs_rounded_sub_le (j := 10) hend.natAbs_le
    have ha := Binary64.two_mul_natAbs_rounded_sub_le (j := 10) hasOf.natAbs_le
    have hg := Binary64.two_mul_natAbs_rounded_sub_le (j := 10) hgrace
    have he63 := Binary64.natAbs_rounded_le_twoPow hend.natAbs_le
    have hg63 := Binary64.natAbs_rounded_le_twoPow (j := 63) hgrace
    have hs := Binary64.two_mul_natAbs_rounded_sub_le (j := 11)
      (n := rounded w.endTs + rounded grace) (by rw [hshare.2.2]; omega)
    omega

end Window

namespace Lifecycle

/-- What becomes of a line as time goes on: it stays, or its state expires. -/
inductive Ages : Row → Row → Prop
  | stays (row : Row) : Ages row row
  | expires (id : String) : Ages ⟨id, .active, none⟩ ⟨id, .expired, none⟩

/-- A line that says neither that its state is frozen nor that it is superseded, against the boundary
that the end of the window and the grace period set. -/
structure ExpiresAt (grace asOf : Int) (p : ProblemState) (row : Row) : Prop where
  id_eq : row.id = p.id
  /-- The state is expired if the time lies behind the boundary in doubles, and active if not. -/
  state_eq : row.state ≠ .frozen → row.state ≠ .superseded → row.state =
    if rounded (rounded p.window.endTs + rounded grace) < rounded asOf then .expired else .active
  /-- It is expired if the time lies behind the boundary, and active if not, provided that rounding
  does not matter. -/
  state_eq_of_sharpAt : p.window.SharpAt grace asOf → row.state ≠ .frozen →
    row.state ≠ .superseded → row.state =
      if p.window.endTs + grace < asOf then .expired else .active

variable {constants : LifecycleConstants} {frozen : KeySet} {p : ProblemState}
  {behind : List ProblemState} {grace asOf later : Int}

/-! ### One line -/

theorem ages_rowOf (h : asOf ≤ later) :
    Ages (rowOf constants frozen asOf p behind) (rowOf constants frozen later p behind) := by
  by_cases hp : p.id ∈ frozen
  · rw [rowOf_of_mem hp, rowOf_of_mem hp]
    exact .stays _
  cases hsup : supersessor? constants frozen p behind with
  | some t =>
    rw [rowOf_of_some hsup, rowOf_of_some hsup]
    exact .stays _
  | none =>
    rw [rowOf_of_none hp hsup, rowOf_of_none hp hsup]
    cases hexp : p.window.isExpired asOf constants.gracePeriod with
    | true =>
      rw [Window.isExpired_mono h hexp]
      exact .stays _
    | false =>
      cases p.window.isExpired later constants.gracePeriod
      · exact .stays _
      · exact .expires _

theorem expiresAt_rowOf (hgrace : constants.gracePeriod = .ofInt grace)
    (hfinite : (Binary64.ofInt grace).isFinite = true)
    (hend : Wire.OfJson.FitsInt64 p.window.endTs) (hasOf : Wire.OfJson.FitsInt64 asOf) :
    ExpiresAt grace asOf p (rowOf constants frozen asOf p behind) := by
  have hstate : (rowOf constants frozen asOf p behind).state ≠ .frozen →
      (rowOf constants frozen asOf p behind).state ≠ .superseded →
      (rowOf constants frozen asOf p behind).state =
        if rounded (rounded p.window.endTs + rounded grace) < rounded asOf then .expired
        else .active := by
    intro hfrozen hsuperseded
    have hp : p.id ∉ frozen := fun hp => hfrozen (by rw [rowOf_of_mem hp])
    have hsup : supersessor? constants frozen p behind = none := by
      cases hsup : supersessor? constants frozen p behind with
      | some t => exact absurd (by rw [rowOf_of_some hsup]) hsuperseded
      | none => rfl
    rw [rowOf_of_none hp hsup, hgrace]
    exact if_congr (Window.isExpired_ofInt_iff hend hasOf hfinite) rfl rfl
  refine ⟨rowOf_id, hstate, fun hsharp hfrozen hsuperseded => ?_⟩
  rw [hstate hfrozen hsuperseded]
  exact if_congr (hsharp.rounded_lt_iff hend hasOf) rfl rfl

/-! ### The index -/

/-- **As time goes on, active states expire and nothing else changes.** The index has one line for
each state of the batch, and at a later time it has the same lines in the same order, but for active
states that have expired. -/
theorem ages_index (constants : LifecycleConstants) (frozen : KeySet) (states : List ProblemState)
    (h : asOf ≤ later) : ∃ line : List ProblemState, line.Perm states ∧
      line.map ProblemState.id = (index constants frozen states asOf).map Row.id ∧
      List.Forall₂ Ages (index constants frozen states asOf)
        (index constants frozen states later) :=
  exists_forall₂_index_of_rowOf fun _ _ _ => ages_rowOf h

/-- Two states of one field. The earlier one is covered by the later, which is about to expire. -/
theorem ages_index_coveredPair : (25 : Int) ≤ 26 ∧
    (∃ line : List ProblemState, line.Perm coveredPair ∧
      line.map ProblemState.id =
        (index ⟨.ofInt 1, .ofInt 5⟩ .empty coveredPair 25).map Row.id ∧
      List.Forall₂ Ages (index ⟨.ofInt 1, .ofInt 5⟩ .empty coveredPair 25)
        (index ⟨.ofInt 1, .ofInt 5⟩ .empty coveredPair 26)) ∧
    index ⟨.ofInt 1, .ofInt 5⟩ .empty coveredPair 25 =
      [⟨"ps-1", .superseded, some "ps-2"⟩, ⟨"ps-2", .active, none⟩] ∧
    index ⟨.ofInt 1, .ofInt 5⟩ .empty coveredPair 26 =
      [⟨"ps-1", .superseded, some "ps-2"⟩, ⟨"ps-2", .expired, none⟩] := by
  refine ⟨by decide, ages_index _ _ _ (by decide), ?_⟩
  rw [index_eq_insertionSort, index_eq_insertionSort]
  decide +kernel

/-- **Each line against the boundary of its state**, for a grace period that is an integer. -/
theorem exists_expiresAt_index (constants : LifecycleConstants) (frozen : KeySet)
    (states : List ProblemState) (hgrace : constants.gracePeriod = .ofInt grace)
    (hfinite : (Binary64.ofInt grace).isFinite = true)
    (hends : ∀ p ∈ states, Wire.OfJson.FitsInt64 p.window.endTs)
    (hasOf : Wire.OfJson.FitsInt64 asOf) : ∃ line : List ProblemState, line.Perm states ∧
      List.Forall₂ (ExpiresAt grace asOf) line (index constants frozen states asOf) :=
  exists_forall₂_index fun _ _ hlater =>
    expiresAt_rowOf hgrace hfinite (hends _ hlater.mem) hasOf

/-- A state whose window ends at this time. -/
def endingAt (time : Int) : ProblemState := ⟨"ps-1", 1, .null, "field", ⟨0, time⟩, "drought", none⟩

theorem exists_expiresAt_index_endingAt :
    (Binary64.ofInt 1).isFinite = true ∧
    (∀ p ∈ [endingAt (2 ^ 53 + 5)], Wire.OfJson.FitsInt64 p.window.endTs) ∧
    Wire.OfJson.FitsInt64 (2 ^ 53 + 6) ∧
    ∃ line : List ProblemState, line.Perm [endingAt (2 ^ 53 + 5)] ∧
      List.Forall₂ (ExpiresAt 1 (2 ^ 53 + 6)) line
        (index ⟨.ofInt 1, .ofInt 1⟩ .empty [endingAt (2 ^ 53 + 5)] (2 ^ 53 + 6)) :=
  have hfinite : (Binary64.ofInt 1).isFinite = true := by decide
  have hends : ∀ p ∈ [endingAt (2 ^ 53 + 5)], Wire.OfJson.FitsInt64 p.window.endTs := by
    simp [endingAt, Wire.OfJson.FitsInt64, Wire.OfJson.leastInt64, Wire.OfJson.int64Bound]
  have hasOf : Wire.OfJson.FitsInt64 (2 ^ 53 + 6) := ⟨by decide, by decide⟩
  ⟨hfinite, hends, hasOf, exists_expiresAt_index _ _ _ rfl hfinite hends hasOf⟩

/-- Beyond `2 ^ 53` the boundary is not sharp. A state may be active behind it and expired at it. -/
theorem index_near_boundary :
    ((2 ^ 53 + 0 : Int) < 2 ^ 53 + 1 ∧
      index ⟨.ofInt 1, .ofInt 0⟩ .empty [endingAt (2 ^ 53)] (2 ^ 53 + 1) =
        [⟨"ps-1", .active, none⟩]) ∧
    ¬ (2 ^ 53 + 5 + 1 : Int) < 2 ^ 53 + 6 ∧
      index ⟨.ofInt 1, .ofInt 1⟩ .empty [endingAt (2 ^ 53 + 5)] (2 ^ 53 + 6) =
        [⟨"ps-1", .expired, none⟩] := by
  decide +kernel

end Lifecycle

end ControlPlane
