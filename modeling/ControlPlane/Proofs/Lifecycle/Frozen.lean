import ControlPlane.Proofs.Lifecycle.ByKey

/-!
# Frozen states

A frozen state has a line of its own and leaves no trace in the other lines: these are the lines of
the batch without its frozen states. This holds line by line and in the order of the lines, also where
an id repeats, because sorting keeps the order of what it cannot tell apart.

## Main definitions

* `Lifecycle.thawed` : the states of a batch that are not frozen.

## Main statements

* `Lifecycle.filter_mergeSort` : taking some elements of a list and sorting it may change places.
* `Lifecycle.rows_filter` : frozen members of a group leave no trace in the lines of the others.
* `Lifecycle.index_ignores_frozen` : frozen states leave no trace in the index.
-/

namespace ControlPlane.Lifecycle

/-! ### Sorting -/

section Sorting

variable {α : Type} {le : α → α → Bool}
  (htrans : ∀ a b c, le a b = true → le b c = true → le a c = true)
  (htotal : ∀ a b, (le a b || le b a) = true)

include htrans htotal

/-- What stands on the two sides of the first element of a list once it is sorted. -/
theorem mergeSort_cons_eq_filter (a : α) (l : List α) :
    (a :: l).mergeSort le = (l.mergeSort le).filter (fun b => !le a b) ++
        a :: (l.mergeSort le).filter (fun b => le a b) ∧
      l.mergeSort le = (l.mergeSort le).filter (fun b => !le a b) ++
        (l.mergeSort le).filter fun b => le a b := by
  obtain ⟨before, behind, hcons, hl, hbefore, hbehind⟩ := exists_mergeSort_cons htrans htotal a l
  have hfirst : (l.mergeSort le).filter (fun b => !le a b) = before := by
    rw [hl, List.filter_append, List.filter_eq_self.2 fun b hb => by simp [hbefore b hb],
      List.filter_eq_nil_iff.2 fun b hb => by simp [hbehind b hb], List.append_nil]
  have hsecond : (l.mergeSort le).filter (fun b => le a b) = behind := by
    rw [hl, List.filter_append, List.filter_eq_self.2 hbehind,
      List.filter_eq_nil_iff.2 fun b hb => by simp [hbefore b hb], List.nil_append]
  rw [hfirst, hsecond]
  exact ⟨hcons, hl⟩

/-- **Taking some elements of a list and sorting it may change places.** -/
theorem filter_mergeSort (test : α → Bool) (l : List α) :
    (l.mergeSort le).filter test = (l.filter test).mergeSort le := by
  induction l with
  | nil => rw [List.mergeSort_nil, List.filter_nil, List.mergeSort_nil]
  | cons a l ih =>
    obtain ⟨hcons, hsplit⟩ := mergeSort_cons_eq_filter htrans htotal a l
    by_cases ha : test a = true
    · rw [hcons, List.filter_append, List.filter_cons_of_pos ha, List.filter_cons_of_pos ha,
        (mergeSort_cons_eq_filter htrans htotal a (l.filter test)).1, ← ih,
        List.filter_comm test, List.filter_comm test]
    · -- Without the first element, what stood on its two sides is the sorted rest.
      rw [hcons, List.filter_append, List.filter_cons_of_neg ha, List.filter_cons_of_neg ha,
        ← List.filter_append, ← hsplit, ih]

end Sorting

variable {constants : LifecycleConstants} {frozen : KeySet} {asOf : Int}
  {states later : List ProblemState} {p : ProblemState}

/-- The states of a batch that are not frozen, in their order. -/
def thawed (frozen : KeySet) (states : List ProblemState) : List ProblemState :=
  states.filter fun p => p.id ∉ frozen

/-! ### The lines of a group -/

theorem supersessor?_thawed (hp : p.id ∉ frozen) :
    supersessor? constants .empty p (thawed frozen later) =
      supersessor? constants frozen p later := by
  have hempty : (thawed frozen later).filter (fun q => q.id ∉ KeySet.empty) = thawed frozen later :=
    List.filter_eq_self.2 fun q _ => decide_eq_true KeySet.not_mem_empty
  rw [supersessor?, supersessor?, if_neg hp, if_neg KeySet.not_mem_empty, hempty, thawed]

theorem rowOf_thawed (hp : p.id ∉ frozen) :
    rowOf constants .empty asOf p (thawed frozen later) = rowOf constants frozen asOf p later := by
  rw [rowOf, rowOf, if_neg hp, if_neg KeySet.not_mem_empty, supersessor?_thawed hp]

/-- **Frozen members of a group leave no trace in the lines of the others.** -/
theorem rows_filter (members : List ProblemState) :
    (rows constants frozen asOf members).filter (fun row => row.id ∉ frozen) =
      rows constants .empty asOf (thawed frozen members) := by
  induction members with
  | nil => rfl
  | cons p later ih =>
    rw [rows, thawed]
    by_cases hp : p.id ∈ frozen
    · rw [List.filter_cons_of_neg (by simpa [rowOf_id] using hp),
        List.filter_cons_of_neg (by simpa using hp), ih, thawed]
    · rw [List.filter_cons_of_pos (by simpa [rowOf_id] using hp),
        List.filter_cons_of_pos (by simpa using hp), rows, ih, ← thawed, rowOf_thawed hp]

/-! ### The index -/

theorem keyRows_filter (key : GovernanceKey) :
    (keyRows constants frozen states asOf key).filter (fun row => row.id ∉ frozen) =
      keyRows constants .empty (thawed frozen states) asOf key := by
  rw [keyRows, rows_filter, thawed, filter_mergeSort notAfter_trans notAfter_total, ofKey,
    List.filter_comm]
  rfl

theorem groupedRows_filter :
    (groupedRows constants frozen states asOf).filter (fun row => row.id ∉ frozen) =
      groupedRows constants .empty (thawed frozen states) asOf := by
  -- A key of which all states are frozen is still one of the keys of the batch.
  have hall (p : ProblemState) (hp : p ∈ thawed frozen states) :
      p.key ∈ (groups states).map Group.key :=
    key_mem_map_key_groups (List.mem_filter.1 hp).1
  rw [groupedRows_eq_flatMap, List.filter_flatMap,
    groupedRows_eq_flatMap_of_forall_mem (increasing_map_key_groups states) hall]
  exact List.flatMap_congr fun key _ => keyRows_filter key

/-- **Frozen states leave no trace in the index.** Their own lines say that they are frozen, and the
other lines are those of the batch without them. -/
theorem index_ignores_frozen (constants : LifecycleConstants) (frozen : KeySet)
    (states : List ProblemState) (asOf : Int) :
    (∀ row ∈ index constants frozen states asOf, row.id ∈ frozen →
        row.state = .frozen ∧ row.supersededBy = none) ∧
      (index constants frozen states asOf).filter (fun row => row.id ∉ frozen) =
        index constants .empty (states.filter fun p => p.id ∉ frozen) asOf := by
  refine ⟨fun row hrow hid => ?_, ?_⟩
  · obtain ⟨p, later, -, rfl⟩ := mem_index_iff.1 hrow
    rw [rowOf_id] at hid
    rw [rowOf_of_mem hid]
    exact ⟨rfl, rfl⟩
  · rw [index, filter_mergeSort idNotAfter_trans idNotAfter_total, groupedRows_filter, index, thawed]

/-- A frozen state supersedes none, so that the state it covers expires as if it stood alone. -/
example : index ⟨.ofInt 1, .ofInt 5⟩ (.ofList ["ps-2"]) coveredPair 25 =
    [⟨"ps-1", .expired, none⟩, ⟨"ps-2", .frozen, none⟩] := by
  rw [index_eq_insertionSort]
  decide +kernel

end ControlPlane.Lifecycle
