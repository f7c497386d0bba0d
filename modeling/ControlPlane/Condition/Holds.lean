import ControlPlane.Condition.Basic
import ControlPlane.Snapshot.Basic

/-!
# When a condition holds

A condition is judged on a snapshot alone. Judging never fails: a value of another kind than the
condition asks for makes it false.

## Main definitions

* `Snapshot.Bound` : an end of a window, as far as a snapshot tells it.
* `Snapshot.windowsAgree` : the subject's window against the permitted one.
* `Condition.holds` : whether a condition holds.
-/

namespace ControlPlane

namespace Snapshot

/-- Where the subject's window starts. -/
def subjectStart : String := "problem_state.window.startTs"

/-- Where the subject's window ends. -/
def subjectEnd : String := "problem_state.window.endTs"

/-- Where the permitted window starts. -/
def permittedStart : String := "permission_set.window.startTs"

/-- Where the permitted window ends. -/
def permittedEnd : String := "permission_set.window.endTs"

/-- An end of a window. -/
inductive Bound where
  | absent
  | at (time : Binary64)
  | unreadable
deriving DecidableEq, Repr

/-- The end of a window at a path. Integers count as the nearest double. -/
def bound (s : Snapshot) (path : String) : Bound :=
  match s.get? path with
  | none => .absent
  | some v =>
    match v.number? with
    | some time => .at time
    | none => .unreadable

/-- Whether two ends are readable, and equal if both are present. -/
def Bound.agree : Bound → Bound → Bool
  | .unreadable, _ | _, .unreadable => false
  | .at a, .at b => a.eq b
  | _, _ => true

/-- Whether the subject's window agrees with the permitted one at both ends. -/
def windowsAgree (s : Snapshot) : Bool :=
  (s.bound subjectStart).agree (s.bound permittedStart) &&
    (s.bound subjectEnd).agree (s.bound permittedEnd)

/-- The text of a path. -/
def text? (s : Snapshot) (path : String) : Option String := (s.get? path).bind Json.text?

/-- The texts in the list of a path; there are none where no list is. -/
def texts (s : Snapshot) (path : String) : List String :=
  (((s.get? path).bind Json.items?).getD []).filterMap Json.text?

end Snapshot

namespace Condition

mutual

/-- Whether a condition holds on a snapshot. -/
def holds (s : Snapshot) : Condition → Bool
  | .fieldEq path value => s.text? path == some value
  | .fieldIn path values => (s.text? path).any fun t => values.contains t
  | .fieldExists path => (s.get? path).any fun v => !v.isNull
  | .setIntersects path values => (s.texts path).any fun t => values.contains t
  | .windowMatch => s.windowsAgree
  | .all children => allHold s children
  | .any children => anyHolds s children
  | .not child => !holds s child

/-- Whether every one of several conditions holds. -/
def allHold (s : Snapshot) : List Condition → Bool
  | [] => true
  | c :: rest => holds s c && allHold s rest

/-- Whether some of several conditions hold. -/
def anyHolds (s : Snapshot) : List Condition → Bool
  | [] => false
  | c :: rest => holds s c || anyHolds s rest

end

end Condition

end ControlPlane
