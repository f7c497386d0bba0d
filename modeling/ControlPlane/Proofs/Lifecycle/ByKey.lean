import ControlPlane.Proofs.Lifecycle.LineUp

/-!
# One key at a time

The lines of a key are made from the states that have it, in their order, and from nothing else. The
index puts the lines of all keys together, so that batches without a common key can be put together
line by line.

## Main definitions

* `Lifecycle.keyRows` : the lines of the states that have a key.

## Main statements

* `Lifecycle.groupedRows_eq_flatMap_of_forall_mem` : any increasing keys among which are those of a
  batch give its lines.
* `Lifecycle.index_append_perm` : batches without a common key do not interact.
-/

namespace ControlPlane.Lifecycle

section

variable (constants : LifecycleConstants) (frozen : KeySet) (states : List ProblemState)

/-- The lines of the states of a batch that have a key. -/
def keyRows (asOf : Int) (key : GovernanceKey) : List Row :=
  rows constants frozen asOf ((ofKey key states).mergeSort notAfter)

end

variable {constants : LifecycleConstants} {frozen : KeySet} {asOf : Int}
  {a b states : List ProblemState} {key : GovernanceKey}

/-! ### The states of a key -/

theorem ofKey_eq_nil (h : ∀ p ∈ states, p.key ≠ key) : ofKey key states = [] :=
  List.filter_eq_nil_iff.2 fun p hp => by simpa using h p hp

theorem ofKey_append : ofKey key (a ++ b) = ofKey key a ++ ofKey key b := List.filter_append a b

theorem keyRows_eq_nil (h : ∀ p ∈ states, p.key ≠ key) :
    keyRows constants frozen states asOf key = [] := by
  rw [keyRows, ofKey_eq_nil h, List.mergeSort_nil, rows]

/-! ### The lines of a batch -/

/-- Elements for which a function gives nothing may be left out. -/
private theorem flatMap_filter_eq {α β : Type} {f : α → List β} {test : α → Bool} {l : List α}
    (h : ∀ a ∈ l, test a = false → f a = []) : (l.filter test).flatMap f = l.flatMap f := by
  induction l with
  | nil => rfl
  | cons a rest ih =>
    have hrest := ih fun b hb => h b (List.mem_cons_of_mem _ hb)
    cases ha : test a with
    | true => rw [List.filter_cons_of_pos ha, List.flatMap_cons, List.flatMap_cons, hrest]
    | false =>
      rw [List.filter_cons_of_neg (by simp [ha]), List.flatMap_cons, h a List.mem_cons_self ha,
        List.nil_append, hrest]

/-- **Any increasing keys give the lines of a batch**, if its keys are among them. -/
theorem groupedRows_eq_flatMap_of_forall_mem {keys : List GovernanceKey}
    (hkeys : keys.Pairwise fun k l => k.parts < l.parts) (hall : ∀ p ∈ states, p.key ∈ keys) :
    groupedRows constants frozen states asOf =
      keys.flatMap (keyRows constants frozen states asOf) := by
  rw [groupedRows_eq_flatMap, map_key_groups_eq_filter hkeys hall]
  refine flatMap_filter_eq fun key _ hkey => keyRows_eq_nil fun p hp he => ?_
  rw [decide_eq_false_iff_not] at hkey
  exact hkey (he ▸ List.mem_map_of_mem hp)

/-! ### Batches without a common key -/

/-- The lines of a key that one of two batches at most has. -/
theorem keyRows_append (hkeys : ∀ p ∈ a, ∀ q ∈ b, p.key ≠ q.key) (key : GovernanceKey) :
    keyRows constants frozen (a ++ b) asOf key =
      keyRows constants frozen a asOf key ++ keyRows constants frozen b asOf key := by
  by_cases h : ∃ p ∈ a, p.key = key
  · obtain ⟨p, hp, rfl⟩ := h
    have hb : ∀ q ∈ b, q.key ≠ p.key := fun q hq he => hkeys p hp q hq he.symm
    rw [keyRows_eq_nil hb, List.append_nil, keyRows, ofKey_append, ofKey_eq_nil hb,
      List.append_nil, keyRows]
  · have ha : ∀ p ∈ a, p.key ≠ key := fun p hp he => h ⟨p, hp, he⟩
    rw [keyRows_eq_nil ha, List.nil_append, keyRows, ofKey_append, ofKey_eq_nil ha,
      List.nil_append, keyRows]

theorem groupedRows_append_perm (hkeys : ∀ p ∈ a, ∀ q ∈ b, p.key ≠ q.key) :
    (groupedRows constants frozen (a ++ b) asOf).Perm
      (groupedRows constants frozen a asOf ++ groupedRows constants frozen b asOf) := by
  -- The keys of both batches serve each of the three sides.
  have hinc := increasing_map_key_groups (a ++ b)
  have hall (p : ProblemState) (hp : p ∈ a ++ b) : p.key ∈ (groups (a ++ b)).map Group.key :=
    key_mem_map_key_groups hp
  rw [groupedRows_eq_flatMap_of_forall_mem hinc hall,
    groupedRows_eq_flatMap_of_forall_mem hinc fun p hp => hall p (List.mem_append_left b hp),
    groupedRows_eq_flatMap_of_forall_mem hinc fun p hp => hall p (List.mem_append_right a hp),
    List.flatMap_congr fun key _ => keyRows_append hkeys key]
  exact (List.flatMap_append_perm _ _ _).symm

/-- **Batches without a common key do not interact.** The index of both together has the lines of
the one and of the other, in the order of their ids. -/
theorem index_append_perm (constants : LifecycleConstants) (frozen : KeySet) (asOf : Int)
    (hkeys : ∀ p ∈ a, ∀ q ∈ b, p.key ≠ q.key) :
    (index constants frozen (a ++ b) asOf).Perm
        (index constants frozen a asOf ++ index constants frozen b asOf) ∧
      (index constants frozen (a ++ b) asOf).Pairwise fun r s => r.id ≤ s.id := by
  refine ⟨?_, sorted_index⟩
  have hsort (states : List ProblemState) : (index constants frozen states asOf).Perm
      (groupedRows constants frozen states asOf) := List.mergeSort_perm _ _
  exact (hsort (a ++ b)).trans
    ((groupedRows_append_perm hkeys).trans ((hsort a).append (hsort b)).symm)

/-- A state of a farm that has the id of a state of a field. -/
def farmState : ProblemState := ⟨"ps-1", 3, .null, "farm", ⟨0, 30⟩, "flood", none⟩

/-- Two lines have one id, and only that of the field says that its state is superseded. -/
theorem index_append_perm_farmState :
    (∀ p ∈ coveredPair, ∀ q ∈ [farmState], p.key ≠ q.key) ∧
    ((index ⟨.ofInt 1, .ofInt 5⟩ .empty (coveredPair ++ [farmState]) 25).Perm
        (index ⟨.ofInt 1, .ofInt 5⟩ .empty coveredPair 25 ++
          index ⟨.ofInt 1, .ofInt 5⟩ .empty [farmState] 25) ∧
      (index ⟨.ofInt 1, .ofInt 5⟩ .empty (coveredPair ++ [farmState]) 25).Pairwise
        fun r s => r.id ≤ s.id) ∧
    index ⟨.ofInt 1, .ofInt 5⟩ .empty (coveredPair ++ [farmState]) 25 =
      [⟨"ps-1", .active, none⟩, ⟨"ps-1", .superseded, some "ps-2"⟩, ⟨"ps-2", .active, none⟩] := by
  have hkeys : ∀ p ∈ coveredPair, ∀ q ∈ [farmState], p.key ≠ q.key := by decide +kernel
  refine ⟨hkeys, index_append_perm _ _ _ hkeys, ?_⟩
  rw [index_eq_insertionSort]
  decide +kernel

end ControlPlane.Lifecycle
