import ControlPlane.Proofs.Lifecycle.InputOrder
import Mathlib.Data.List.Forall2

/-!
# The line-up of a batch

Which states stand behind a state, and in which order the lines of the index stand, is settled by
the batch alone. Constants, frozen ids and the time only decide what each line says. So each line is
that of a state and of what stands behind it, and two runs on one batch can be compared line by line.

## Main definitions

* `Lifecycle.HasLater` : the states of its key that stand behind a state.
* `Lifecycle.lineUp` : the states of a batch in the order of the index, each with the states of its
  key that stand behind it.

## Main statements

* `Lifecycle.index_eq_map_lineUp` : the index is made from the line-up, line by line.
* `Lifecycle.map_fst_lineUp_perm` : the line-up has each state of the batch once.
* `Lifecycle.mem_lineUp_iff` : it puts behind a state what stands behind it in its group.
* `Lifecycle.mem_index_iff` : a line of the index is that of a state and the states behind it.
* `Lifecycle.exists_forall₂_index` : what holds of each line holds along the index.
* `Lifecycle.exists_forall₂_index_of_rowOf` : two runs on one batch are compared line by line.
-/

namespace ControlPlane.Lifecycle

/-- A state of the batch, and the states of its key that stand behind it once they are sorted. -/
def HasLater (states : List ProblemState) (p : ProblemState) (later : List ProblemState) : Prop :=
  ∃ earlier, (ofKey p.key states).mergeSort notAfter = earlier ++ p :: later

/-- Each state of a list with the states behind it. -/
def withLater : List ProblemState → List (ProblemState × List ProblemState)
  | [] => []
  | p :: later => (p, later) :: withLater later

/-- The states of a batch in the order of the index, each with those of its key that stand behind
it. -/
def lineUp (states : List ProblemState) : List (ProblemState × List ProblemState) :=
  ((groups states).flatMap fun g => withLater (g.members.mergeSort notAfter)).mergeSort
    fun a b => a.1.id ≤ b.1.id

variable {constants constants' : LifecycleConstants} {frozen frozen' : KeySet} {asOf asOf' : Int}
  {states later : List ProblemState} {p q : ProblemState} {row : Row}
  {e : ProblemState × List ProblemState}

/-! ### What stands behind a state -/

theorem HasLater.mem_ofKey_of_mem (h : HasLater states p later) (hq : q ∈ p :: later) :
    q ∈ ofKey p.key states := by
  obtain ⟨earlier, he⟩ := h
  exact List.mem_mergeSort.1 (he ▸ List.mem_append_right earlier hq)

theorem HasLater.mem (h : HasLater states p later) : p ∈ states :=
  (mem_ofKey.1 (h.mem_ofKey_of_mem List.mem_cons_self)).1

/-- What stands behind a state has its key, and what stands behind that one stands behind the
first. -/
theorem HasLater.of_mem (h : HasLater states p later) (hq : q ∈ later) :
    q.key = p.key ∧ ∃ behind, HasLater states q behind ∧ (q :: behind).Sublist later := by
  have hkey : q.key = p.key :=
    (mem_ofKey.1 (h.mem_ofKey_of_mem (List.mem_cons_of_mem p hq))).2
  obtain ⟨earlier, he⟩ := h
  obtain ⟨between, behind, rfl⟩ := List.append_of_mem hq
  refine ⟨hkey, behind, ⟨earlier ++ p :: between, ?_⟩, List.sublist_append_right _ _⟩
  rw [hkey, he, List.append_assoc, List.cons_append]

/-- What supersedes a state is a state of the batch and has its key. -/
theorem HasLater.mem_of_supersessor? (h : HasLater states p later)
    (hq : supersessor? constants frozen p later = some q) : q ∈ states ∧ q.key = p.key :=
  mem_ofKey.1 (h.mem_ofKey_of_mem (List.mem_cons_of_mem p (mem_of_supersessor?_eq_some hq).1))

/-! ### The line-up -/

theorem rows_eq_map_withLater (members : List ProblemState) :
    rows constants frozen asOf members =
      (withLater members).map fun e => rowOf constants frozen asOf e.1 e.2 := by
  induction members with
  | nil => rfl
  | cons p later ih => rw [rows, withLater, List.map_cons, ih]

theorem mem_withLater_iff {members : List ProblemState} :
    e ∈ withLater members ↔ ∃ earlier, members = earlier ++ e.1 :: e.2 := by
  constructor
  · intro he
    induction members with
    | nil => exact absurd he List.not_mem_nil
    | cons p later ih =>
      rcases List.mem_cons.1 he with rfl | he
      · exact ⟨[], rfl⟩
      · obtain ⟨earlier, rfl⟩ := ih he
        exact ⟨p :: earlier, rfl⟩
  · rintro ⟨earlier, rfl⟩
    induction earlier with
    | nil => exact List.mem_cons_self
    | cons p earlier ih => exact List.mem_cons_of_mem _ ih

theorem map_fst_withLater (members : List ProblemState) :
    (withLater members).map Prod.fst = members := by
  induction members with
  | nil => rfl
  | cons p later ih => rw [withLater, List.map_cons, ih]

/-- **The index is made from the line-up**, line by line. -/
theorem index_eq_map_lineUp (constants : LifecycleConstants) (frozen : KeySet)
    (states : List ProblemState) (asOf : Int) : index constants frozen states asOf =
      (lineUp states).map fun e => rowOf constants frozen asOf e.1 e.2 := by
  have hrows : groupedRows constants frozen states asOf =
      ((groups states).flatMap fun g => withLater (g.members.mergeSort notAfter)).map
        fun e => rowOf constants frozen asOf e.1 e.2 := by
    rw [groupedRows, List.map_flatMap]
    exact List.flatMap_congr fun g _ => rows_eq_map_withLater _
  rw [index, hrows, lineUp]
  refine (List.map_mergeSort fun a _ b _ => ?_).symm
  rw [rowOf_id, rowOf_id]

/-- **The line-up has each state of the batch once.** -/
theorem map_fst_lineUp_perm (states : List ProblemState) :
    ((lineUp states).map Prod.fst).Perm states := by
  have hgroups : (((groups states).flatMap fun g => withLater (g.members.mergeSort notAfter)).map
      Prod.fst).Perm ((groups states).flatMap Group.members) := by
    rw [List.map_flatMap]
    refine List.Perm.flatMap_left _ fun g _ => ?_
    rw [map_fst_withLater]
    exact List.mergeSort_perm _ _
  exact ((List.mergeSort_perm _ _).map Prod.fst).trans
    (hgroups.trans (flatMap_members_groups states))

/-- **The line-up puts behind a state what stands behind it in its group.** -/
theorem mem_lineUp_iff : e ∈ lineUp states ↔ HasLater states e.1 e.2 := by
  rw [lineUp, List.mem_mergeSort, List.mem_flatMap]
  constructor
  · rintro ⟨g, hg, he⟩
    obtain ⟨earlier, hsorted⟩ := mem_withLater_iff.1 he
    have hmem : e.1 ∈ g.members :=
      List.mem_mergeSort.1 (hsorted ▸ List.mem_append_right earlier List.mem_cons_self)
    refine ⟨earlier, ?_⟩
    rw [← hsorted, (grouped_groups states).key_eq g hg _ hmem, members_eq_filter hg, ofKey]
  · intro h
    obtain ⟨g, hg, hkey⟩ := List.mem_map.1 (key_mem_map_key_groups h.mem)
    refine ⟨g, hg, mem_withLater_iff.2 ?_⟩
    rwa [members_eq_filter hg, hkey]

/-! ### The index -/

/-- **A line of the index is that of a state of the batch** and of what stands behind it. -/
theorem mem_index_iff : row ∈ index constants frozen states asOf ↔
    ∃ p later, HasLater states p later ∧ row = rowOf constants frozen asOf p later := by
  rw [index_eq_map_lineUp, List.mem_map]
  constructor
  · rintro ⟨e, he, rfl⟩
    exact ⟨e.1, e.2, mem_lineUp_iff.1 he, rfl⟩
  · rintro ⟨p, later, hp, rfl⟩
    exact ⟨(p, later), mem_lineUp_iff.2 hp, rfl⟩

/-- **What holds of the line of each state holds along the index**, with the states of the batch in
the order of their lines. -/
theorem exists_forall₂_index {R : ProblemState → Row → Prop}
    (h : ∀ p later, HasLater states p later → R p (rowOf constants frozen asOf p later)) :
    ∃ line : List ProblemState, line.Perm states ∧
      List.Forall₂ R line (index constants frozen states asOf) := by
  refine ⟨(lineUp states).map Prod.fst, map_fst_lineUp_perm states, ?_⟩
  rw [index_eq_map_lineUp, List.forall₂_map_left_iff, List.forall₂_map_right_iff,
    List.forall₂_same]
  exact fun e he => h e.1 e.2 (mem_lineUp_iff.1 he)

/-- **Two runs on one batch are compared line by line.** What holds of the two lines of each state
holds along the two indexes, with the states of the batch in the order of their lines. -/
theorem exists_forall₂_index_of_rowOf {R : Row → Row → Prop}
    (h : ∀ p later, HasLater states p later →
      R (rowOf constants frozen asOf p later) (rowOf constants' frozen' asOf' p later)) :
    ∃ line : List ProblemState, line.Perm states ∧
      line.map ProblemState.id = (index constants frozen states asOf).map Row.id ∧
      List.Forall₂ R (index constants frozen states asOf)
        (index constants' frozen' states asOf') := by
  refine ⟨(lineUp states).map Prod.fst, map_fst_lineUp_perm states, ?_, ?_⟩
  · rw [index_eq_map_lineUp, List.map_map, List.map_map]
    exact List.map_congr_left fun e _ => rowOf_id.symm
  · rw [index_eq_map_lineUp, index_eq_map_lineUp, List.forall₂_map_left_iff,
      List.forall₂_map_right_iff, List.forall₂_same]
    exact fun e he => h e.1 e.2 (mem_lineUp_iff.1 he)

end ControlPlane.Lifecycle
