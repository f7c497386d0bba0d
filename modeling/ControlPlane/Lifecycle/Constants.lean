import ControlPlane.Json.Basic

/-!
# The constants of the lifecycle

Two doubles govern the lifecycle. Documents spell them in several ways, and each is taken from the
first spelling that holds a finite number.

## Main definitions

* `LifecycleConstants` : the threshold and the grace period.
* `LifecycleConstants.ofNumbers`, `LifecycleConstants.ofMembers` : constants from two numbers and
  from a document.
-/

namespace ControlPlane

/-- The constants of the lifecycle. -/
structure LifecycleConstants where
  /-- The overlap at which a newer window supersedes an older one. -/
  mergeOverlap : Binary64
  /-- The time in milliseconds from the end of a window until its state expires. -/
  gracePeriod : Binary64
deriving DecidableEq, Repr

namespace LifecycleConstants

/-- A constant that is no finite number. -/
inductive Invalid where
  | mergeOverlap
  | gracePeriod
deriving DecidableEq, Repr

/-- The name of a constant in messages. -/
def Invalid.name : Invalid → String
  | .mergeOverlap => "MERGE_OVERLAP_RATIO"
  | .gracePeriod => "EXPIRE_AFTER_MS"

/-- The wording of the refusal. -/
def Invalid.message (e : Invalid) : String := "constants." ++ e.name ++ " must be a finite number"

/-- Constants from two numbers, both of which must be finite. -/
def ofNumbers (mergeOverlap gracePeriod : Binary64) : Except Invalid LifecycleConstants :=
  if !mergeOverlap.isFinite then .error .mergeOverlap
  else if !gracePeriod.isFinite then .error .gracePeriod
  else .ok ⟨mergeOverlap, gracePeriod⟩

/-- The spellings of the threshold, the preferred one first. -/
def mergeOverlapKeys : List String :=
  ["MERGE_OVERLAP_RATIO", "merge_overlap_ratio", "mergeOverlapRatio"]

/-- The spellings of the grace period, the preferred one first. -/
def gracePeriodKeys : List String :=
  ["EXPIRE_AFTER_MS", "expire_after_ms", "expireAfterMs",
    "EXPIRY_BUFFER_MS", "expiry_buffer_ms", "expiryBufferMs"]

/-- The first finite number among the values of keys. -/
def pick? (members : Members) (keys : List String) : Option Binary64 :=
  keys.findSome? fun key =>
    ((Members.get? members key).bind Json.number?).filter Binary64.isFinite

/-- Constants from the members of a document. -/
def ofMembers (members : Members) : Except Invalid LifecycleConstants :=
  match pick? members mergeOverlapKeys, pick? members gracePeriodKeys with
  | none, _ => .error .mergeOverlap
  | some _, none => .error .gracePeriod
  | some mergeOverlap, some gracePeriod => ofNumbers mergeOverlap gracePeriod

end LifecycleConstants

end ControlPlane
