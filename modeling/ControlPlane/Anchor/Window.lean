import ControlPlane.Wire.Source

/-!
# Windows of time

A window has a start and an end in milliseconds, both signed integers of 64 bits. Lengths are cut
off at the greatest such integer and are never negative.

## Main definitions

* `Window.duration`, `Window.intersection` : lengths.
* `Window.IsWellFormed`, `Window.Contains` : good windows and inclusive containment.
* `Window.overlapRatio` : the intersection as a fraction of the shorter window.
* `Window.record`, `Window.members`, `Window.toJson` : the document form.
-/

namespace ControlPlane

/-- A window of time in milliseconds. -/
structure Window where
  startTs : Int
  endTs : Int
deriving DecidableEq, Repr, Inhabited

namespace Window

open Wire (Field Record Source)

/-- The greatest length, which is the greatest signed integer of 64 bits. -/
def greatestLength : Int := 9223372036854775807

/-- The time from `start` to `finish`: none when that is negative, and no more than the greatest. -/
def span (start finish : Int) : Int := min greatestLength (max 0 (finish - start))

/-- The length of a window. An inverted window has none. -/
def duration (w : Window) : Int := span w.startTs w.endTs

/-- The length of what two windows share. -/
def intersection (a b : Window) : Int := span (max a.startTs b.startTs) (min a.endTs b.endTs)

/-- The length of the shorter of two windows. -/
def shorter (a b : Window) : Int := min a.duration b.duration

/-- A window that starts at no negative time and ends after it starts. -/
def IsWellFormed (w : Window) : Prop := 0 ≤ w.startTs ∧ w.startTs < w.endTs

instance (w : Window) : Decidable w.IsWellFormed := by unfold IsWellFormed; infer_instance

/-- The outer window covers the inner one; the ends may coincide. -/
def Contains (outer inner : Window) : Prop :=
  outer.startTs ≤ inner.startTs ∧ inner.endTs ≤ outer.endTs

instance (outer inner : Window) : Decidable (outer.Contains inner) := by
  unfold Contains; infer_instance

/-- What two windows share as a fraction of the shorter one, both lengths and their quotient rounded
to doubles. It is zero when a window has no length. -/
def overlapRatio (a b : Window) : Binary64 :=
  if a.duration = 0 ∨ b.duration = 0 then .zero
  else (Binary64.ofInt (intersection a b)).div (.ofInt (shorter a b))

/-- The bounds in the order of declaration. -/
def members (w : Window) : List (String × Json) :=
  [("startTs", .integer w.startTs), ("endTs", .integer w.endTs)]

/-- The document form. -/
def toJson (w : Window) : Json := .ofMembers w.members

/-- How a window is read. -/
def record {m : Type → Type} [Source m] : Record m Window where
  name := "TimeWindow"
  blank := ⟨0, 0⟩
  closed := true
  fields := [
    ⟨"startTs", true, fun w => (fun n => { w with startTs := n }) <$> Source.int64⟩,
    ⟨"endTs", true, fun w => (fun n => { w with endTs := n }) <$> Source.int64⟩]

/-- Reads a window. -/
def read {m : Type → Type} [Source m] : m Window := Source.record record

end Window

end ControlPlane
