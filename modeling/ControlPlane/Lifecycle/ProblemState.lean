import ControlPlane.Anchor.Window
import ControlPlane.Json.Canonical

/-!
# Problem states

A problem state is a record of a ledger. Only the parts that decide its lifecycle are read. States
compete with each other when they agree on their governance key.

## Main definitions

* `ProblemState` : a state.
* `GovernanceKey` : what competing states agree on.
* `LifecycleInput` : a batch of states with the time and the constants to judge them by.
-/

namespace ControlPlane

open Wire (Record Source)

/-- A record of the ledger, as far as its lifecycle depends on it. -/
structure ProblemState where
  id : String
  createdAt : Int
  subject : Json
  scale : String
  window : Window
  problemType : String
  inputDigest : Option String
deriving Inhabited

/-- What competing states agree on. The parts are kept apart, so that two keys never look alike. -/
structure GovernanceKey where
  subject : String
  scale : String
  problemType : String
  inputDigest : String
deriving DecidableEq, Repr

namespace GovernanceKey

/-- The parts from the most to the least significant. -/
def parts (k : GovernanceKey) : List String := [k.subject, k.scale, k.problemType, k.inputDigest]

end GovernanceKey

namespace ProblemState

/-- The governance key. Subjects count as equal when their canonical texts are, and an absent digest
counts as empty. -/
def key (p : ProblemState) : GovernanceKey :=
  ⟨p.subject.canonical, p.scale, p.problemType, p.inputDigest.getD ""⟩

/-- How a state is read. Other fields are passed over. -/
def record {m : Type → Type} [Source m] : Record m ProblemState where
  name := "ProblemStateV1Like"
  blank := default
  closed := false
  fields := [
    ⟨"problem_state_id", true, fun p => (fun s => { p with id := s }) <$> Source.text⟩,
    ⟨"created_at_ts", true, fun p => (fun n => { p with createdAt := n }) <$> Source.int64⟩,
    ⟨"subjectRef", true, fun p => (fun v => { p with subject := v }) <$> Source.json⟩,
    ⟨"scale", true, fun p => (fun s => { p with scale := s }) <$> Source.text⟩,
    ⟨"window", true, fun p => (fun w => { p with window := w }) <$> Window.read⟩,
    ⟨"problem_type", true, fun p => (fun s => { p with problemType := s }) <$> Source.text⟩,
    ⟨"input_digest", false, fun p =>
      (fun s => { p with inputDigest := s }) <$> Source.nullable Source.text⟩]

/-- Reads a state. -/
def read {m : Type → Type} [Source m] : m ProblemState := Source.record record

end ProblemState

/-- A batch of states, and what to judge them by. -/
structure LifecycleInput where
  states : List ProblemState
  asOf : Int
  constants : Members
  frozen : List String

namespace LifecycleInput

/-- How a batch is read. Other fields are passed over. -/
def record {m : Type → Type} [Source m] : Record m LifecycleInput where
  name := "ComputeIndexInput"
  blank := ⟨[], 0, [], []⟩
  closed := false
  fields := [
    ⟨"problem_states", false, fun i =>
      (fun ps => { i with states := ps }) <$> Source.items ProblemState.read⟩,
    ⟨"asOfTs", true, fun i => (fun n => { i with asOf := n }) <$> Source.int64⟩,
    ⟨"constants", false, fun i => (fun c => { i with constants := c }) <$> Source.members⟩,
    ⟨"frozen_ids", false, fun i =>
      (fun ids => { i with frozen := ids }) <$> Source.items Source.text⟩]

/-- Reads a batch. -/
def read {m : Type → Type} [Source m] : m LifecycleInput := Source.record record

end LifecycleInput

end ControlPlane
