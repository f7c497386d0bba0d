import ControlPlane.Proofs.Binary64.Value
import ControlPlane.Proofs.Lifecycle.LineUp

/-!
# The threshold of overlap

Under a lower threshold more windows supersede others, and none fewer. A scan therefore stops no later
than before: what was superseded stays superseded, by the same state or by one that comes before it,
and a state that is not superseded even now has the line that it had. Which state is named may change,
because a window that overlaps enough only now may stand in front of the one that was found before.

## Main definitions

* `Lifecycle.Loosens` : the lines of a state under a threshold and under a lower one.

## Main statements

* `Window.supersedes_of_le` : what supersedes under a threshold does so under a lower one.
* `Lifecycle.exists_find?_of_imp` : a search for more stops no later.
* `Lifecycle.loosens_index` : two thresholds compared along the index.
-/

namespace ControlPlane

/-- What supersedes under a threshold does so under a lower one. -/
theorem Window.supersedes_of_le {newer older : Window} {lower upper : Binary64}
    (h : lower.le upper = true) (hsup : newer.supersedes older upper = true) :
    newer.supersedes older lower = true := by
  rw [Lifecycle.supersedes_iff] at hsup ⊢
  exact hsup.imp_right (Binary64.le_trans h)

namespace Lifecycle

/-- The lines of one state of a batch under a threshold and under a lower one. -/
structure Loosens (states : List ProblemState) (strict loose : Row) : Prop where
  id_eq : loose.id = strict.id
  /-- What is superseded stays so, by a state that comes no later. -/
  not_later : strict.state = .superseded → ∃ t ∈ states, ∃ u ∈ states, notAfter t u = true ∧
    strict.supersededBy = some u.id ∧ loose.state = .superseded ∧ loose.supersededBy = some t.id
  /-- What is not superseded under the lower threshold has the same line under the other. -/
  eq_of_ne : loose.state ≠ .superseded → strict = loose

variable {frozen : KeySet} {states later : List ProblemState} {asOf : Int} {s u : ProblemState}
  {lower upper gracePeriod : Binary64}

/-! ### One line -/

/-- **A search for more stops no later.** -/
theorem exists_find?_of_imp {α : Type} {R : α → α → Prop} {p q : α → Bool} {l : List α}
    (hl : l.Pairwise R) (himp : ∀ a, p a = true → q a = true) {u : α} (hu : l.find? p = some u) :
    ∃ t, l.find? q = some t ∧ (t = u ∨ R t u) := by
  induction l with
  | nil => exact absurd hu (by simp)
  | cons a rest ih =>
    by_cases hq : q a = true
    · refine ⟨a, List.find?_cons_of_pos hq, ?_⟩
      exact (List.mem_cons.1 (List.mem_of_find?_eq_some hu)).imp Eq.symm
        (List.rel_of_pairwise_cons hl)
    · have hp : ¬ p a = true := fun hp => hq (himp a hp)
      rw [List.find?_cons_of_neg hp] at hu
      rw [List.find?_cons_of_neg hq]
      exact ih hl.of_cons hu

theorem notAfter_refl (p : ProblemState) : notAfter p p = true :=
  notAfter_iff.2 (.inr ⟨rfl, String.le_refl p.id⟩)

/-- The states behind a state stand in their order. -/
theorem HasLater.pairwise (h : HasLater states s later) :
    later.Pairwise fun p q => notAfter p q = true := by
  obtain ⟨earlier, he⟩ := h
  have hsorted := List.pairwise_mergeSort notAfter_trans notAfter_total (ofKey s.key states)
  rw [he] at hsorted
  exact (List.pairwise_append.1 hsorted).2.1.of_cons

/-- A scan under a lower threshold stops no later. -/
theorem exists_supersessor?_of_le (h : lower.le upper = true) (hlater : HasLater states s later)
    (hu : supersessor? ⟨upper, gracePeriod⟩ frozen s later = some u) :
    ∃ t, supersessor? ⟨lower, gracePeriod⟩ frozen s later = some t ∧ notAfter t u = true := by
  by_cases hs : s.id ∈ frozen
  · rw [supersessor?, if_pos hs] at hu
    exact absurd hu (by simp)
  · rw [supersessor?, if_neg hs] at hu ⊢
    obtain ⟨t, ht, hnotAfter⟩ := exists_find?_of_imp (hlater.pairwise.filter _)
      (fun _ hw => Window.supersedes_of_le h hw) hu
    refine ⟨t, ht, ?_⟩
    rcases hnotAfter with rfl | hnotAfter
    · exact notAfter_refl t
    · exact hnotAfter

theorem loosens_rowOf (h : lower.le upper = true) (hlater : HasLater states s later) :
    Loosens states (rowOf ⟨upper, gracePeriod⟩ frozen asOf s later)
      (rowOf ⟨lower, gracePeriod⟩ frozen asOf s later) := by
  refine ⟨by rw [rowOf_id, rowOf_id], fun hsuperseded => ?_, fun hne => ?_⟩
  · obtain ⟨u, hu⟩ := exists_supersessor?_of_state_rowOf hsuperseded
    obtain ⟨t, ht, hnotAfter⟩ := exists_supersessor?_of_le h hlater hu
    rw [rowOf_of_some hu, rowOf_of_some ht]
    exact ⟨t, (hlater.mem_of_supersessor? ht).1, u, (hlater.mem_of_supersessor? hu).1, hnotAfter,
      rfl, rfl, rfl⟩
  · by_cases hs : s.id ∈ frozen
    · rw [rowOf_of_mem hs, rowOf_of_mem hs]
    have hlower : supersessor? ⟨lower, gracePeriod⟩ frozen s later = none := by
      refine Option.eq_none_iff_forall_ne_some.2 fun t ht => hne ?_
      rw [rowOf_of_some ht]
    have hupper : supersessor? ⟨upper, gracePeriod⟩ frozen s later = none := by
      refine Option.eq_none_iff_forall_ne_some.2 fun u hu => ?_
      obtain ⟨t, ht, -⟩ := exists_supersessor?_of_le h hlater hu
      exact absurd (hlower.symm.trans ht) (by simp)
    rw [rowOf_of_none hs hupper, rowOf_of_none hs hlower]

/-! ### The index -/

/-- **Under a lower threshold no state is superseded less**, and none by a later state, line by line
and with one line for each state of the batch. A state that is not superseded under the lower
threshold has the same line under both. -/
theorem loosens_index (h : lower.le upper = true) (gracePeriod : Binary64) (frozen : KeySet)
    (states : List ProblemState) (asOf : Int) : ∃ line : List ProblemState, line.Perm states ∧
      line.map ProblemState.id = (index ⟨upper, gracePeriod⟩ frozen states asOf).map Row.id ∧
      List.Forall₂ (Loosens states) (index ⟨upper, gracePeriod⟩ frozen states asOf)
        (index ⟨lower, gracePeriod⟩ frozen states asOf) :=
  exists_forall₂_index_of_rowOf fun _ _ hlater => loosens_rowOf h hlater

/-- Three states of one field. The second overlaps half of the first, and the third covers both. -/
def halfThenCovered : List ProblemState := [
  ⟨"ps-1", 1, .null, "field", ⟨0, 10⟩, "drought", none⟩,
  ⟨"ps-2", 2, .null, "field", ⟨5, 15⟩, "drought", none⟩,
  ⟨"ps-3", 3, .null, "field", ⟨0, 20⟩, "drought", none⟩]

/-- The state that supersedes the first one changes with the threshold. -/
theorem loosens_index_halfThenCovered : (Binary64.ofInt 0).le (.ofInt 1) = true ∧
    (∃ line : List ProblemState, line.Perm halfThenCovered ∧
      line.map ProblemState.id =
        (index ⟨.ofInt 1, .ofInt 5⟩ .empty halfThenCovered 20).map Row.id ∧
      List.Forall₂ (Loosens halfThenCovered)
        (index ⟨.ofInt 1, .ofInt 5⟩ .empty halfThenCovered 20)
        (index ⟨.ofInt 0, .ofInt 5⟩ .empty halfThenCovered 20)) ∧
    index ⟨.ofInt 1, .ofInt 5⟩ .empty halfThenCovered 20 =
      [⟨"ps-1", .superseded, some "ps-3"⟩, ⟨"ps-2", .superseded, some "ps-3"⟩,
        ⟨"ps-3", .active, none⟩] ∧
    index ⟨.ofInt 0, .ofInt 5⟩ .empty halfThenCovered 20 =
      [⟨"ps-1", .superseded, some "ps-2"⟩, ⟨"ps-2", .superseded, some "ps-3"⟩,
        ⟨"ps-3", .active, none⟩] := by
  have hle : (Binary64.ofInt 0).le (.ofInt 1) = true := by decide
  refine ⟨hle, loosens_index hle _ _ _ _, ?_⟩
  rw [index_eq_insertionSort, index_eq_insertionSort]
  decide +kernel

end Lifecycle

end ControlPlane
