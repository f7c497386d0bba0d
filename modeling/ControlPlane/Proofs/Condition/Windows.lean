import ControlPlane.Proofs.Binary64.Integer
import ControlPlane.Proofs.Condition.Reads
import ControlPlane.Proofs.Json.Members

/-!
# Comparing windows

A condition on the windows compares their bounds in pairs, and a bound that one window lacks is not
compared. Integers are compared as doubles. Equal bounds always match, and bounds that differ do not if
one of them is below `2 ^ 53`. Of greater ones, two that are rounded to the same double match although
they differ, but they are never more than 2048 milliseconds apart.

## Main definitions

* `Snapshot.HasIntegerBounds` : the bounds that are present are integers of 64 bits.
* `Snapshot.BoundsRelated` : a relation holds of each pair of integers that is compared.
* `Condition.MatchesWindows` : what it means that a condition on the windows holds.

## Main statements

* `Condition.holds_windowMatch_iff` : the comparison in terms of integers.
* `Condition.matchesWindows` : what follows for integers that are equal, near or below `2 ^ 53`.
-/

namespace ControlPlane

open Binary64 (rounded twoPow)

namespace Snapshot

/-- Each bound of the windows that is present is an integer of 64 bits, with or without a sign. -/
def HasIntegerBounds (s : Snapshot) : Prop :=
  ∀ path ∈ windowPaths, ∀ v, s.get? path = some v → v.WellFormed ∧ ∃ n, v = .integer n

/-- If there are integers at both paths, they are related. -/
def PairRelated (R : Int → Int → Prop) (s : Snapshot) (subject permitted : String) : Prop :=
  ∀ m n, s.get? subject = some (.integer m) → s.get? permitted = some (.integer n) → R m n

/-- Both windows' starts are related, and their ends, as far as both windows have them. -/
def BoundsRelated (R : Int → Int → Prop) (s : Snapshot) : Prop :=
  s.PairRelated R subjectStart permittedStart ∧ s.PairRelated R subjectEnd permittedEnd

variable {s : Snapshot} {R S T : Int → Int → Prop} {path subject permitted : String} {n : Int}

theorem BoundsRelated.imp (hT : s.BoundsRelated T) (h : ∀ m n, T m n → R m n → S m n)
    (hR : s.BoundsRelated R) : s.BoundsRelated S :=
  ⟨fun m n hm hn => h m n (hT.1 m n hm hn) (hR.1 m n hm hn),
    fun m n hm hn => h m n (hT.2 m n hm hn) (hR.2 m n hm hn)⟩

/-! ### One pair of bounds -/

theorem bound_of_none (h : s.get? path = none) : s.bound path = .absent := by
  rw [bound, h]

theorem bound_of_integer (h : s.get? path = some (.integer n)) :
    s.bound path = .at (.ofInt n) := by
  rw [bound, h]
  rfl

theorem HasIntegerBounds.cases (h : s.HasIntegerBounds) (hpath : path ∈ windowPaths) :
    s.get? path = none ∨
      ∃ n, s.get? path = some (.integer n) ∧ n.natAbs ≤ twoPow 64 := by
  cases hv : s.get? path with
  | none => exact .inl rfl
  | some v =>
    obtain ⟨hwf, n, rfl⟩ := h path hpath v hv
    have hpow : twoPow 64 = 18446744073709551616 := rfl
    rw [Json.WellFormed, Json.leastInteger, Json.integerBound] at hwf
    exact .inr ⟨n, rfl, by omega⟩

/-- **Two bounds agree if they are rounded to the same integer.** -/
theorem HasIntegerBounds.agree_iff (h : s.HasIntegerBounds) (hsubject : subject ∈ windowPaths)
    (hpermitted : permitted ∈ windowPaths) :
    (s.bound subject).agree (s.bound permitted) = true ↔
      s.PairRelated (fun m n => rounded m = rounded n) subject permitted := by
  rcases h.cases hsubject with hs | ⟨m, hs, hm⟩
  · rw [bound_of_none hs]
    rcases h.cases hpermitted with hp | ⟨n, hp, hn⟩
    · rw [bound_of_none hp]
      exact iff_of_true rfl fun m n hm => by simp [hs] at hm
    · rw [bound_of_integer hp]
      exact iff_of_true rfl fun m n hm => by simp [hs] at hm
  · rw [bound_of_integer hs]
    rcases h.cases hpermitted with hp | ⟨n, hp, hn⟩
    · rw [bound_of_none hp]
      exact iff_of_true rfl fun m n _ hn => by simp [hp] at hn
    · rw [bound_of_integer hp]
      have heq := Binary64.eq_ofInt_iff (Binary64.isFinite_ofInt (n := m) (by omega))
        (Binary64.isFinite_ofInt (n := n) (by omega))
      refine heq.trans ⟨fun hmn m' n' hm' hn' => ?_, fun hmn => hmn m n hs hp⟩
      rw [hs] at hm'
      rw [hp] at hn'
      cases hm'
      cases hn'
      exact hmn

theorem HasIntegerBounds.natAbs_le (h : s.HasIntegerBounds) :
    s.BoundsRelated fun m n => m.natAbs ≤ twoPow 64 ∧ n.natAbs ≤ twoPow 64 := by
  have hle {path : String} {n : Int} (hpath : path ∈ windowPaths)
      (hn : s.get? path = some (.integer n)) : n.natAbs ≤ twoPow 64 := by
    rcases h.cases hpath with hnone | ⟨n', hsome, hle⟩
    · rw [hn] at hnone
      exact absurd hnone (by simp)
    · rw [hn] at hsome
      cases hsome
      exact hle
  exact ⟨fun m n hm hn => ⟨hle (by decide) hm, hle (by decide) hn⟩,
    fun m n hm hn => ⟨hle (by decide) hm, hle (by decide) hn⟩⟩

end Snapshot

namespace Condition

/-- What it means that a condition on the windows holds, for bounds that are integers. -/
structure MatchesWindows (s : Snapshot) : Prop where
  /-- Bounds are compared by the integers that they are rounded to. -/
  holds_iff : holds s .windowMatch = true ↔ s.BoundsRelated fun m n => rounded m = rounded n
  /-- Equal bounds match. -/
  holds_of_eq : s.BoundsRelated (fun m n => m = n) → holds s .windowMatch = true
  /-- Bounds that match are close to each other. -/
  near_of_holds : holds s .windowMatch = true → s.BoundsRelated fun m n => (m - n).natAbs ≤ 2048
  /-- Only equal bounds match if one of each pair is below `2 ^ 53`. -/
  holds_iff_eq : s.BoundsRelated (fun m n => m.natAbs < 2 ^ 53 ∨ n.natAbs < 2 ^ 53) →
    (holds s .windowMatch = true ↔ s.BoundsRelated fun m n => m = n)

variable {s : Snapshot}

/-- **The comparison of windows in terms of integers.** -/
theorem holds_windowMatch_iff (h : s.HasIntegerBounds) :
    holds s .windowMatch = true ↔ s.BoundsRelated fun m n => rounded m = rounded n := by
  rw [holds, Snapshot.windowsAgree, Bool.and_eq_true, h.agree_iff (by decide) (by decide),
    h.agree_iff (by decide) (by decide), Snapshot.BoundsRelated]

/-- **What a condition on the windows compares.** -/
theorem matchesWindows (h : s.HasIntegerBounds) : MatchesWindows s where
  holds_iff := holds_windowMatch_iff h
  holds_of_eq heq := (holds_windowMatch_iff h).2
    (h.natAbs_le.imp (fun _ _ _ he => congrArg rounded he) heq)
  near_of_holds hholds := h.natAbs_le.imp
    (fun _ _ hle he => Binary64.natAbs_sub_le_of_rounded_eq (j := 11) hle.1 hle.2 he)
    ((holds_windowMatch_iff h).1 hholds)
  holds_iff_eq hsmall := (holds_windowMatch_iff h).trans
    ⟨hsmall.imp fun _ _ hlt => (Binary64.rounded_eq_rounded_iff hlt).1,
      hsmall.imp fun _ _ hlt => (Binary64.rounded_eq_rounded_iff hlt).2⟩

/-- A snapshot of two windows of which only the starts are known. -/
def startingAt (subject permitted : Int) : Snapshot :=
  ⟨[(Snapshot.permittedStart, .integer permitted), (Snapshot.subjectStart, .integer subject)]⟩

theorem hasIntegerBounds_startingAt {subject permitted : Int}
    (hsubject : (Json.integer subject).WellFormed)
    (hpermitted : (Json.integer permitted).WellFormed) :
    (startingAt subject permitted).HasIntegerBounds := by
  intro path _ v hv
  rcases List.mem_cons.1 (Members.mem_of_get? hv) with he | hmem
  · obtain ⟨rfl, rfl⟩ := Prod.mk.inj he
    exact ⟨hpermitted, permitted, rfl⟩
  · obtain ⟨rfl, rfl⟩ := Prod.mk.inj (List.mem_singleton.1 hmem)
    exact ⟨hsubject, subject, rfl⟩

theorem matchesWindows_startingAt : (startingAt 5 8).HasIntegerBounds ∧
    MatchesWindows (startingAt 5 8) :=
  have h : (startingAt 5 8).HasIntegerBounds :=
    hasIntegerBounds_startingAt ⟨by decide, by decide⟩ ⟨by decide, by decide⟩
  ⟨h, matchesWindows h⟩

/-- Two starts beyond `2 ^ 53` that differ and match all the same. -/
theorem holds_windowMatch_startingAt : (startingAt (2 ^ 53) (2 ^ 53 + 1)).HasIntegerBounds ∧
    holds (startingAt (2 ^ 53) (2 ^ 53 + 1)) .windowMatch = true ∧
    ¬ (startingAt (2 ^ 53) (2 ^ 53 + 1)).BoundsRelated fun m n => m = n := by
  refine ⟨hasIntegerBounds_startingAt ⟨by decide, by decide⟩ ⟨by decide, by decide⟩,
    by decide +kernel, fun h => ?_⟩
  exact absurd (h.1 (2 ^ 53) (2 ^ 53 + 1) rfl rfl) (by decide)

end Condition

end ControlPlane
