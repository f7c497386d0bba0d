import ControlPlane.Proofs.Lifecycle.Index

/-!
# The order of the batch

The index does not depend on the order in which the states of a batch arrive. Grouping keeps the
states of a key in that order, and sorting a group leaves it visible only between states of the same
time and id. Lines depend on such states by their ids and windows alone, so it is enough that their
windows agree.

## Main definitions

* `ProblemState.timed` : a state as far as its group orders it and its line depends on it.
* `Lifecycle.WindowsDetermined` : the window of a state is known from its key, its time and its id.

## Main statements

* `Lifecycle.groupedRows_eq_flatMap` : the lines of a batch, key by key.
* `Lifecycle.rows_map` : lines depend on states by their ids and windows.
* `Lifecycle.map_timed_mergeSort_eq` : sorting a group hides the order of its members.
* `Lifecycle.index_eq_of_perm` : the index hides the order of the batch.
-/

namespace ControlPlane

/-- A state as far as its group orders it and its line depends on it: its id, its time and its
window. -/
def ProblemState.timed (p : ProblemState) : ProblemState where
  id := p.id
  createdAt := p.createdAt
  subject := .null
  scale := ""
  window := p.window
  problemType := ""
  inputDigest := none

namespace Lifecycle

/-- States of a batch that agree in their key, their time and their id have the same window. -/
def WindowsDetermined (states : List ProblemState) : Prop :=
  ∀ p ∈ states, ∀ q ∈ states, p.key = q.key → p.createdAt = q.createdAt → p.id = q.id →
    p.window = q.window

variable {constants : LifecycleConstants} {frozen : KeySet} {asOf : Int}
  {a b states : List ProblemState}

/-! ### Key by key -/

/-- The states of a batch that have a key, in the order of the batch. -/
def ofKey (key : GovernanceKey) (states : List ProblemState) : List ProblemState :=
  states.filter fun p => p.key = key

theorem mem_ofKey {key : GovernanceKey} {p : ProblemState} :
    p ∈ ofKey key states ↔ p ∈ states ∧ p.key = key := by
  rw [ofKey, List.mem_filter, decide_eq_true_eq]

theorem nodup_map_id_ofKey (hn : (states.map ProblemState.id).Nodup) (key : GovernanceKey) :
    ((ofKey key states).map ProblemState.id).Nodup :=
  hn.sublist (List.filter_sublist.map ProblemState.id)

/-- **The lines of a batch are made key by key**, from the states that have the key. -/
theorem groupedRows_eq_flatMap : groupedRows constants frozen states asOf =
    ((groups states).map Group.key).flatMap fun key =>
      rows constants frozen asOf ((ofKey key states).mergeSort notAfter) := by
  rw [groupedRows, List.flatMap_map]
  refine List.flatMap_congr fun g hg => ?_
  rw [members_eq_filter hg]
  rfl

/-! ### What lines depend on -/

section

variable {f : ProblemState → ProblemState} (hid : ∀ p, (f p).id = p.id)
  (hwindow : ∀ p, (f p).window = p.window)

include hid hwindow

theorem supersessor?_map (older : ProblemState) (later : List ProblemState) :
    supersessor? constants frozen (f older) (later.map f) =
      (supersessor? constants frozen older later).map f := by
  unfold supersessor?
  rw [hid, List.filter_map, List.find?_map]
  split
  · rfl
  · simp only [Function.comp_def, hid, hwindow]

theorem rowOf_map (p : ProblemState) (later : List ProblemState) :
    rowOf constants frozen asOf (f p) (later.map f) = rowOf constants frozen asOf p later := by
  unfold rowOf
  rw [hid, hwindow, supersessor?_map hid hwindow]
  cases supersessor? constants frozen p later with
  | none => rfl
  | some newer => simp only [Option.map_some, hid]

/-- **Lines depend on states by their ids and windows.** -/
theorem rows_map (members : List ProblemState) :
    rows constants frozen asOf (members.map f) = rows constants frozen asOf members := by
  induction members with
  | nil => rfl
  | cons p later ih => rw [List.map_cons, rows, rows, rowOf_map hid hwindow, ih]

end

/-! ### Sorting -/

theorem eq_of_notAfter {p q : ProblemState} (hpq : notAfter p q = true)
    (hqp : notAfter q p = true) : p.createdAt = q.createdAt ∧ p.id = q.id := by
  rcases notAfter_iff.1 hpq with h | ⟨htime, hid⟩
  · rcases notAfter_iff.1 hqp with h' | ⟨h', -⟩ <;> omega
  · rcases notAfter_iff.1 hqp with h' | ⟨-, hid'⟩
    · omega
    · exact ⟨htime, String.le_antisymm hid hid'⟩

/-- **Sorting hides the order of states**, if those of the same time and id have the same window. -/
theorem map_timed_mergeSort_eq (h : a.Perm b)
    (hwindow : ∀ p ∈ a, ∀ q ∈ a, p.createdAt = q.createdAt → p.id = q.id → p.window = q.window) :
    (a.mergeSort notAfter).map ProblemState.timed =
      (b.mergeSort notAfter).map ProblemState.timed := by
  have hsorted (l : List ProblemState) :
      ((l.mergeSort notAfter).map ProblemState.timed).Pairwise fun p q => notAfter p q = true :=
    List.pairwise_map.2 (List.pairwise_mergeSort notAfter_trans notAfter_total l)
  have hperm : (a.mergeSort notAfter).Perm (b.mergeSort notAfter) :=
    (List.mergeSort_perm a notAfter).trans (h.trans (List.mergeSort_perm b notAfter).symm)
  refine (hperm.map ProblemState.timed).eq_of_pairwise (fun _ _ hpa hqb hpq hqp => ?_) (hsorted a)
    (hsorted b)
  obtain ⟨p, hp, rfl⟩ := List.mem_map.1 hpa
  obtain ⟨q, hq, rfl⟩ := List.mem_map.1 hqb
  obtain ⟨htime, hid⟩ : p.createdAt = q.createdAt ∧ p.id = q.id := eq_of_notAfter hpq hqp
  have hqa : q ∈ a := h.mem_iff.2 (List.mem_mergeSort.1 hq)
  have hw : p.window = q.window := hwindow p (List.mem_mergeSort.1 hp) q hqa htime hid
  rw [ProblemState.timed, ProblemState.timed, htime, hid, hw]

theorem rows_mergeSort_eq_of_perm (h : a.Perm b)
    (hwindow : ∀ p ∈ a, ∀ q ∈ a, p.createdAt = q.createdAt → p.id = q.id → p.window = q.window) :
    rows constants frozen asOf (a.mergeSort notAfter) =
      rows constants frozen asOf (b.mergeSort notAfter) := by
  have hrows (l : List ProblemState) :
      rows constants frozen asOf (l.map ProblemState.timed) = rows constants frozen asOf l :=
    rows_map (f := ProblemState.timed) (fun _ => rfl) (fun _ => rfl) l
  rw [← hrows (a.mergeSort notAfter), map_timed_mergeSort_eq h hwindow, hrows]

/-! ### The index -/

theorem groupedRows_eq_of_perm (h : a.Perm b) (hw : WindowsDetermined a) :
    groupedRows constants frozen a asOf = groupedRows constants frozen b asOf := by
  rw [groupedRows_eq_flatMap, groupedRows_eq_flatMap,
    map_key_groups_eq fun key => (h.map ProblemState.key).mem_iff]
  refine List.flatMap_congr fun key _ => ?_
  refine rows_mergeSort_eq_of_perm (h.filter _) fun p hp q hq htime hid => ?_
  obtain ⟨hpa, hpk⟩ := List.mem_filter.1 hp
  obtain ⟨hqa, hqk⟩ := List.mem_filter.1 hq
  have hkey : p.key = q.key := (of_decide_eq_true hpk).trans (of_decide_eq_true hqk).symm
  exact hw p hpa q hqa hkey htime hid

/-- **The index does not depend on the order of the batch**, if states that agree in their key,
their time and their id have the same window. -/
theorem index_eq_of_perm (constants : LifecycleConstants) (frozen : KeySet) (asOf : Int)
    (h : a.Perm b) (hw : WindowsDetermined a) :
    index constants frozen a asOf = index constants frozen b asOf := by
  rw [index, index, groupedRows_eq_of_perm h hw]

/-- Three states of two fields. One id occurs at two times in one field, and in the other field as
well. -/
def repeatedId : List ProblemState := [
  ⟨"ps-1", 2, .null, "field", ⟨0, 20⟩, "drought", none⟩,
  ⟨"ps-1", 1, .null, "field", ⟨5, 10⟩, "drought", some ""⟩,
  ⟨"ps-1", 1, .null, "farm", ⟨7, 9⟩, "drought", none⟩]

theorem index_eq_of_perm_repeatedId : repeatedId.Perm repeatedId.reverse ∧
    WindowsDetermined repeatedId ∧
    index ⟨.ofInt 1, .ofInt 5⟩ .empty repeatedId 25 =
      index ⟨.ofInt 1, .ofInt 5⟩ .empty repeatedId.reverse 25 ∧
    index ⟨.ofInt 1, .ofInt 5⟩ .empty repeatedId 25 =
      [⟨"ps-1", .expired, none⟩, ⟨"ps-1", .superseded, some "ps-1"⟩, ⟨"ps-1", .active, none⟩] := by
  have hperm : repeatedId.Perm repeatedId.reverse := (List.reverse_perm repeatedId).symm
  have hw : WindowsDetermined repeatedId := by
    unfold WindowsDetermined
    decide +kernel
  refine ⟨hperm, hw, index_eq_of_perm _ _ _ hperm hw, ?_⟩
  rw [index_eq_insertionSort]
  decide +kernel

end Lifecycle

end ControlPlane
