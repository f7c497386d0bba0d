import ControlPlane.Binary64.Rounding
import ControlPlane.KeySet
import ControlPlane.Lifecycle.Constants
import ControlPlane.Lifecycle.ProblemState

/-!
# The index of problem states

The index tells for each state of a batch whether it is frozen, superseded, expired or active, the
first of these that applies. A state is superseded by the first later one that competes with it and
whose window covers it or overlaps it enough; frozen states take no part in this.

## Main definitions

* `Lifecycle.State`, `Lifecycle.Row` : what becomes of a state, and a line of the index.
* `Window.supersedes`, `Window.isExpired` : the two tests on windows.
* `Lifecycle.groups` : the states of a batch by their keys.
* `Lifecycle.supersessor?` : the state by which a state is superseded.
* `Lifecycle.index` : the index of a batch, sorted by id.
-/

namespace ControlPlane

/-- Whether the newer of two windows covers the older one, or overlaps it by the given ratio. -/
def Window.supersedes (newer older : Window) (ratio : Binary64) : Bool :=
  decide (newer.Contains older) || ratio.le (older.overlapRatio newer)

/-- Whether more time than the grace period has passed since the end of a window, in doubles. -/
def Window.isExpired (w : Window) (asOf : Int) (gracePeriod : Binary64) : Bool :=
  ((Binary64.ofInt w.endTs).add gracePeriod).lt (.ofInt asOf)

namespace Lifecycle

/-- What becomes of a state. -/
inductive State where
  | active
  | superseded
  | expired
  | frozen
deriving DecidableEq, Repr

/-- The word for it in documents. -/
def State.text : State → String
  | .active => "ACTIVE"
  | .superseded => "SUPERSEDED"
  | .expired => "EXPIRED"
  | .frozen => "FROZEN"

/-- A line of the index. -/
structure Row where
  id : String
  state : State
  supersededBy : Option String
deriving DecidableEq, Repr

/-- A line in a document, in the order of declaration. -/
def Row.members (r : Row) : List (String × Json) :=
  [("problem_state_id", .string r.id), ("lifecycle_state", .string r.state.text),
    ("superseded_by", (r.supersededBy.map Json.string).getD .null)]

/-- The states of a batch that agree on a key. -/
structure Group where
  key : GovernanceKey
  members : List ProblemState

/-- Puts a state behind the members of its group. Groups stand in the order of their keys. -/
def place (p : ProblemState) : List Group → List Group
  | [] => [⟨p.key, [p]⟩]
  | g :: rest =>
    if p.key = g.key then ⟨g.key, g.members ++ [p]⟩ :: rest
    else if p.key.parts < g.key.parts then ⟨p.key, [p]⟩ :: g :: rest
    else g :: place p rest

/-- The groups of a batch. -/
def groups (states : List ProblemState) : List Group :=
  states.foldl (fun groups p => place p groups) []

/-- The order of the members of a group, by time and then by id. -/
def notAfter (a b : ProblemState) : Bool :=
  if a.createdAt = b.createdAt then a.id ≤ b.id else a.createdAt < b.createdAt

section

variable (constants : LifecycleConstants) (frozen : KeySet)

/-- The first state behind an older one that supersedes it. -/
def supersessor? (older : ProblemState) (later : List ProblemState) : Option ProblemState :=
  if older.id ∈ frozen then none
  else (later.filter fun newer => newer.id ∉ frozen).find? fun newer =>
    newer.window.supersedes older.window constants.mergeOverlap

/-- The line of a state, given the members of its group behind it. -/
def rowOf (asOf : Int) (p : ProblemState) (later : List ProblemState) : Row :=
  if p.id ∈ frozen then ⟨p.id, .frozen, none⟩
  else match supersessor? constants frozen p later with
    | some newer => ⟨p.id, .superseded, some newer.id⟩
    | none =>
      let expired := p.window.isExpired asOf constants.gracePeriod
      ⟨p.id, if expired then .expired else .active, none⟩

/-- The lines of the members of a group in their order. -/
def rows (asOf : Int) : List ProblemState → List Row
  | [] => []
  | p :: later => rowOf constants frozen asOf p later :: rows asOf later

/-- The lines of a batch, group by group. -/
def groupedRows (states : List ProblemState) (asOf : Int) : List Row :=
  (groups states).flatMap fun g => rows constants frozen asOf (g.members.mergeSort notAfter)

/-- The index of a batch, sorted by id. Lines of one id keep the order of their states. -/
def index (states : List ProblemState) (asOf : Int) : List Row :=
  (groupedRows constants frozen states asOf).mergeSort fun a b => a.id ≤ b.id

end

end Lifecycle

namespace LifecycleInput

/-- The index of a batch with the constants that it brings. -/
def index (i : LifecycleInput) : Except LifecycleConstants.Invalid (List Lifecycle.Row) := do
  let constants ← LifecycleConstants.ofMembers i.constants
  return Lifecycle.index constants (.ofList i.frozen) i.states i.asOf

end LifecycleInput

end ControlPlane
