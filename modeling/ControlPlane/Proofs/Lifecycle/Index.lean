import ControlPlane.Proofs.Lifecycle.Groups
import Mathlib.Data.List.Nodup
import Mathlib.Data.List.Perm.Basic
import Mathlib.Data.List.Sort

/-!
# What the index says

The index is computed by groups, sorting and scanning. What it says of a state does not depend on any
of these: it is described here by a relation between the states of the batch.

## Main definitions

* `ProblemState.Precedes` : the order by time, and at one time by id.
* `Lifecycle.Competes`, `Lifecycle.IsSupersessor` : the states that could supersede a state, and the
  first of them.
* `Lifecycle.Describes` : what a line has to say of a state.

## Main statements

* `Lifecycle.supersessor?_eq_some_iff` : the scan finds the first state that competes.
* `Lifecycle.describes_rowOf` : the line of a state describes it.
* `Lifecycle.map_id_index_perm`, `Lifecycle.increasing_index` : one line for each state, by id.
* `Lifecycle.index_eq_insertionSort` : the index by insertion, as a closed batch is evaluated.
* `Lifecycle.index_describes` : the index describes the batch.
-/

namespace ControlPlane

/-- A state comes before another one: it is older, or as old and of a smaller id. -/
def ProblemState.Precedes (a b : ProblemState) : Prop :=
  a.createdAt < b.createdAt ∨ a.createdAt = b.createdAt ∧ a.id < b.id

theorem ProblemState.Precedes.asymm {a b : ProblemState} (h : a.Precedes b) : ¬ b.Precedes a := by
  rintro (hlt | ⟨heq, hid⟩)
  · rcases h with h | ⟨h, -⟩ <;> omega
  · rcases h with h | ⟨-, h⟩
    · omega
    · exact String.lt_asymm h hid

namespace Lifecycle

section

variable (constants : LifecycleConstants) (frozen : KeySet) (states : List ProblemState)

/-- A state of the batch competes with an older one: it is not frozen, agrees with it, comes after it,
and has a window that covers the older one or overlaps it by the ratio at least. -/
structure Competes (t s : ProblemState) : Prop where
  mem : t ∈ states
  not_frozen : t.id ∉ frozen
  key_eq : t.key = s.key
  precedes : s.Precedes t
  window : t.window.Contains s.window ∨
    constants.mergeOverlap.le (s.window.overlapRatio t.window) = true

/-- Of the states that compete with an older one, the first. -/
structure IsSupersessor (t s : ProblemState) : Prop where
  competes : Competes constants frozen states t s
  least : ∀ u, Competes constants frozen states u s → u = t ∨ t.Precedes u

/-- What a line says of a state: that it is frozen, or else superseded and by which state, or else
expired, or else active. -/
structure Describes (asOf : Int) (s : ProblemState) (row : Row) : Prop where
  id_eq : row.id = s.id
  frozen_iff : row.state = .frozen ∧ row.supersededBy = none ↔ s.id ∈ frozen
  superseded_iff : s.id ∉ frozen → ∀ t ∈ states,
    (row.state = .superseded ∧ row.supersededBy = some t.id ↔
      IsSupersessor constants frozen states t s)
  expired_iff : s.id ∉ frozen → (∀ t, ¬ IsSupersessor constants frozen states t s) →
    (row.state = .expired ∧ row.supersededBy = none ↔
      s.window.isExpired asOf constants.gracePeriod = true)
  active_iff : s.id ∉ frozen → (∀ t, ¬ IsSupersessor constants frozen states t s) →
    (row.state = .active ∧ row.supersededBy = none ↔
      s.window.isExpired asOf constants.gracePeriod = false)

end

variable {constants : LifecycleConstants} {frozen : KeySet} {states later : List ProblemState}
  {asOf : Int} {s t : ProblemState}

/-! ### The scan -/

/-- A search through a list in strict order finds the least of what it looks for. -/
theorem find?_eq_some_iff_of_pairwise {α : Type} {R : α → α → Prop} {p : α → Bool} {l : List α}
    (hR : ∀ a b, R a b → ¬ R b a) (h : l.Pairwise R) {a : α} :
    l.find? p = some a ↔ a ∈ l ∧ p a = true ∧ ∀ b ∈ l, p b = true → b = a ∨ R a b := by
  induction l with
  | nil => simp
  | cons c rest ih =>
    by_cases hc : p c = true
    · rw [List.find?_cons_of_pos hc, Option.some.injEq]
      constructor
      · rintro rfl
        refine ⟨List.mem_cons_self, hc, fun b hb _ => ?_⟩
        exact (List.mem_cons.1 hb).imp id (List.rel_of_pairwise_cons h)
      · rintro ⟨ha, -, hleast⟩
        rcases List.mem_cons.1 ha with rfl | ha
        · rfl
        · exact (hleast c List.mem_cons_self hc).resolve_right
            (hR _ _ (List.rel_of_pairwise_cons h ha))
    · rw [List.find?_cons_of_neg hc, ih h.of_cons]
      constructor
      · rintro ⟨ha, hp, hleast⟩
        refine ⟨List.mem_cons_of_mem _ ha, hp, fun b hb hpb => ?_⟩
        rcases List.mem_cons.1 hb with rfl | hb
        · exact absurd hpb hc
        · exact hleast b hb hpb
      · rintro ⟨ha, hp, hleast⟩
        refine ⟨(List.mem_cons.1 ha).resolve_left ?_, hp,
          fun b hb => hleast b (List.mem_cons_of_mem _ hb)⟩
        rintro rfl
        exact hc hp

theorem supersedes_iff {newer older : Window} {ratio : Binary64} :
    newer.supersedes older ratio = true ↔
      newer.Contains older ∨ ratio.le (older.overlapRatio newer) = true := by
  rw [Window.supersedes, Bool.or_eq_true, decide_eq_true_eq]

/-- **The scan finds the first state that competes**, provided that what it goes through are the later
states of the group in their order. -/
theorem supersessor?_eq_some_iff (hs : s.id ∉ frozen)
    (hlater : ∀ t, t ∈ later ↔ t ∈ states ∧ t.key = s.key ∧ s.Precedes t)
    (hsorted : later.Pairwise ProblemState.Precedes) :
    supersessor? constants frozen s later = some t ↔ IsSupersessor constants frozen states t s := by
  have hcompetes (t : ProblemState) : Competes constants frozen states t s ↔
      t ∈ later.filter (fun newer => newer.id ∉ frozen) ∧
        t.window.supersedes s.window constants.mergeOverlap = true := by
    rw [List.mem_filter, hlater, decide_eq_true_eq, supersedes_iff]
    exact ⟨fun h => ⟨⟨⟨h.mem, h.key_eq, h.precedes⟩, h.not_frozen⟩, h.window⟩,
      fun ⟨⟨⟨hm, hk, hp⟩, hf⟩, hw⟩ => ⟨hm, hf, hk, hp, hw⟩⟩
  rw [supersessor?, if_neg hs,
    find?_eq_some_iff_of_pairwise (fun _ _ => ProblemState.Precedes.asymm) (hsorted.filter _),
    ← and_assoc, ← hcompetes]
  constructor
  · rintro ⟨ht, hleast⟩
    exact ⟨ht, fun u hu => hleast u ((hcompetes u).1 hu).1 ((hcompetes u).1 hu).2⟩
  · rintro ⟨ht, hleast⟩
    exact ⟨ht, fun u hu hw => hleast u ((hcompetes u).2 ⟨hu, hw⟩)⟩

/-! ### Lines -/

/-- **The line of a state describes it.** -/
theorem describes_rowOf (hn : (states.map ProblemState.id).Nodup)
    (hlater : ∀ t, t ∈ later ↔ t ∈ states ∧ t.key = s.key ∧ s.Precedes t)
    (hsorted : later.Pairwise ProblemState.Precedes) :
    Describes constants frozen states asOf s (rowOf constants frozen asOf s later) := by
  by_cases hs : s.id ∈ frozen
  · rw [rowOf, if_pos hs]
    exact ⟨rfl, by simp [hs], fun h => absurd hs h, fun h => absurd hs h, fun h => absurd hs h⟩
  · have hscan (t : ProblemState) := @supersessor?_eq_some_iff constants _ _ _ s t hs hlater hsorted
    rw [rowOf, if_neg hs]
    cases hsup : supersessor? constants frozen s later with
    | some newer =>
      have hnewer := (hscan newer).1 hsup
      refine ⟨rfl, by simp [hs], fun _ t ht => ?_, fun _ h => absurd hnewer (h newer),
        fun _ h => absurd hnewer (h newer)⟩
      rw [← hscan, hsup]
      simp only [true_and, Option.some.injEq]
      exact ⟨fun h => List.inj_on_of_nodup_map hn hnewer.competes.mem ht h, fun h => h ▸ rfl⟩
    | none =>
      refine ⟨rfl, ?_, fun _ t _ => ?_, fun _ _ => ?_, fun _ _ => ?_⟩
      · cases s.window.isExpired asOf constants.gracePeriod <;> simp [hs]
      · rw [← hscan, hsup]
        cases s.window.isExpired asOf constants.gracePeriod <;> simp
      · cases s.window.isExpired asOf constants.gracePeriod <;> simp
      · cases s.window.isExpired asOf constants.gracePeriod <;> simp

theorem mem_rows {earlier later : List ProblemState} :
    rowOf constants frozen asOf s later ∈ rows constants frozen asOf (earlier ++ s :: later) := by
  induction earlier with
  | nil => exact List.mem_cons_self
  | cons p rest ih => exact List.mem_cons_of_mem _ ih

theorem rowOf_id : (rowOf constants frozen asOf s later).id = s.id := by
  unfold rowOf
  split
  · rfl
  · split <;> rfl

/-- What a scan finds is among what it goes through, and is not frozen. -/
theorem mem_of_supersessor?_eq_some (h : supersessor? constants frozen s later = some t) :
    t ∈ later ∧ t.id ∉ frozen := by
  unfold supersessor? at h
  split at h
  · exact absurd h (by simp)
  · simpa using List.mem_filter.1 (List.mem_of_find?_eq_some h)

theorem supersedes_of_supersessor?_eq_some (h : supersessor? constants frozen s later = some t) :
    t.window.supersedes s.window constants.mergeOverlap = true := by
  unfold supersessor? at h
  split at h
  · exact absurd h (by simp)
  · have hfound := List.find?_some h
    exact hfound

theorem rowOf_of_mem (hs : s.id ∈ frozen) :
    rowOf constants frozen asOf s later = ⟨s.id, .frozen, none⟩ := by
  rw [rowOf, if_pos hs]

theorem rowOf_of_some (hsup : supersessor? constants frozen s later = some t) :
    rowOf constants frozen asOf s later = ⟨s.id, .superseded, some t.id⟩ := by
  have hs : s.id ∉ frozen := fun hs => by simp [supersessor?, hs] at hsup
  rw [rowOf, if_neg hs, hsup]

theorem rowOf_of_none (hs : s.id ∉ frozen) (hsup : supersessor? constants frozen s later = none) :
    rowOf constants frozen asOf s later =
      ⟨s.id, if s.window.isExpired asOf constants.gracePeriod then .expired else .active, none⟩ := by
  rw [rowOf, if_neg hs, hsup]

/-- A state that is neither frozen nor superseded is live. -/
theorem state_rowOf_of_none (hs : s.id ∉ frozen)
    (hsup : supersessor? constants frozen s later = none) :
    (rowOf constants frozen asOf s later).state = .active ∨
      (rowOf constants frozen asOf s later).state = .expired := by
  rw [rowOf_of_none hs hsup]
  cases s.window.isExpired asOf constants.gracePeriod
  · exact .inl rfl
  · exact .inr rfl

/-- The line of a superseded state comes from a scan that has found something. -/
theorem exists_supersessor?_of_state_rowOf
    (h : (rowOf constants frozen asOf s later).state = .superseded) :
    ∃ t, supersessor? constants frozen s later = some t := by
  by_cases hs : s.id ∈ frozen
  · rw [rowOf_of_mem hs] at h
    exact absurd h State.noConfusion
  · refine Option.ne_none_iff_exists'.1 fun hsup => ?_
    have hlive : (rowOf constants frozen asOf s later).state = .active ∨
        (rowOf constants frozen asOf s later).state = .expired := state_rowOf_of_none hs hsup
    rcases hlive with hlive | hlive
    · exact absurd (hlive.symm.trans h) State.noConfusion
    · exact absurd (hlive.symm.trans h) State.noConfusion

theorem map_id_rows (members : List ProblemState) :
    (rows constants frozen asOf members).map Row.id = members.map ProblemState.id := by
  induction members with
  | nil => rfl
  | cons p later ih => rw [rows, List.map_cons, List.map_cons, rowOf_id, ih]

/-! ### Sorting -/

section Sorting

variable {α : Type} {le : α → α → Bool}
  (htrans : ∀ a b c, le a b = true → le b c = true → le a c = true)
  (htotal : ∀ a b, (le a b || le b a) = true)

include htrans htotal

/-- Sorting puts the first element of a list between those that it must not stand in front of and
the others. -/
theorem exists_mergeSort_cons (a : α) (l : List α) : ∃ before behind,
    (a :: l).mergeSort le = before ++ a :: behind ∧ l.mergeSort le = before ++ behind ∧
      (∀ b ∈ before, le a b = false) ∧ ∀ b ∈ behind, le a b = true := by
  obtain ⟨before, behind, hcons, hl, hbefore⟩ := List.mergeSort_cons htrans htotal a l
  have hsorted := List.pairwise_mergeSort htrans htotal (a :: l)
  rw [hcons] at hsorted
  refine ⟨before, behind, hcons, hl, fun b hb => ?_, fun b hb => ?_⟩
  · simpa using hbefore b hb
  · exact List.rel_of_pairwise_cons (List.pairwise_append.1 hsorted).2.1 hb

/-- **Sorting may be done by insertion**, also where the order does not tell all elements apart. -/
theorem mergeSort_eq_insertionSort (l : List α) :
    l.mergeSort le = l.insertionSort fun a b => le a b = true := by
  induction l with
  | nil => rw [List.mergeSort_nil, List.insertionSort_nil]
  | cons a l ih =>
    obtain ⟨before, behind, hcons, hl, hbefore, hbehind⟩ := exists_mergeSort_cons htrans htotal a l
    have hskip (b : α) (hb : b ∈ before) : decide (¬ le a b = true) = true := by
      simp [hbefore b hb]
    rw [List.insertionSort_cons_eq_take_drop, ← ih, hl, hcons,
      List.takeWhile_append_of_pos hskip, List.dropWhile_append_of_pos hskip]
    cases behind with
    | nil => simp
    | cons b rest => simp [hbehind b List.mem_cons_self]

end Sorting

/-! ### Order -/

theorem notAfter_iff {a b : ProblemState} :
    notAfter a b = true ↔ a.createdAt < b.createdAt ∨ a.createdAt = b.createdAt ∧ a.id ≤ b.id := by
  unfold notAfter
  split
  · next h => simp [h]
  · next h => simp [h]

theorem notAfter_trans (a b c : ProblemState) (hab : notAfter a b = true)
    (hbc : notAfter b c = true) : notAfter a c = true := by
  rw [notAfter_iff] at *
  rcases hab with hab | ⟨hab, hid⟩
  · rcases hbc with hbc | ⟨hbc, -⟩ <;> exact .inl (by omega)
  · rcases hbc with hbc | ⟨hbc, hid'⟩
    · exact .inl (by omega)
    · exact .inr ⟨hab.trans hbc, String.le_trans hid hid'⟩

theorem notAfter_total (a b : ProblemState) : (notAfter a b || notAfter b a) = true := by
  rw [Bool.or_eq_true, notAfter_iff, notAfter_iff]
  rcases Int.lt_trichotomy a.createdAt b.createdAt with h | h | h
  · exact .inl (.inl h)
  · exact (String.le_total a.id b.id).imp (fun hid => .inr ⟨h, hid⟩) fun hid => .inr ⟨h.symm, hid⟩
  · exact .inr (.inl h)

theorem id_lt_of_le_of_ne {a b : String} (h : a ≤ b) (hne : a ≠ b) : a < b :=
  String.not_le.1 fun hba => hne (String.le_antisymm h hba)

/-- The members of a group stand in strict order once they are sorted. -/
theorem pairwise_precedes {members : List ProblemState} (hn : (members.map ProblemState.id).Nodup) :
    (members.mergeSort notAfter).Pairwise ProblemState.Precedes := by
  have hperm := List.mergeSort_perm members notAfter
  have hids : ((members.mergeSort notAfter).map ProblemState.id).Nodup :=
    (hperm.map ProblemState.id).nodup_iff.2 hn
  refine (List.pairwise_mergeSort notAfter_trans notAfter_total members).imp₂
    (fun a b hab hne => ?_) (List.pairwise_map.1 hids)
  exact (notAfter_iff.1 hab).imp id fun ⟨htime, hid⟩ => ⟨htime, id_lt_of_le_of_ne hid hne⟩

/-! ### The index -/

/-- **The index has one line for each state.** -/
theorem map_id_index_perm (constants : LifecycleConstants) (frozen : KeySet)
    (states : List ProblemState) (asOf : Int) :
    ((index constants frozen states asOf).map Row.id).Perm (states.map ProblemState.id) := by
  have hgroup (g : Group) : ((rows constants frozen asOf (g.members.mergeSort notAfter)).map
      Row.id).Perm (g.members.map ProblemState.id) := by
    rw [map_id_rows]
    exact (List.mergeSort_perm g.members notAfter).map ProblemState.id
  have hrows : ((groupedRows constants frozen states asOf).map Row.id).Perm
      (((groups states).flatMap Group.members).map ProblemState.id) := by
    rw [groupedRows, List.map_flatMap, List.map_flatMap]
    exact List.Perm.flatMap_left _ fun g _ => hgroup g
  exact ((List.mergeSort_perm _ _).map Row.id).trans
    (hrows.trans ((flatMap_members_groups states).map ProblemState.id))

theorem idNotAfter_trans (a b c : Row) (hab : decide (a.id ≤ b.id) = true)
    (hbc : decide (b.id ≤ c.id) = true) : decide (a.id ≤ c.id) = true :=
  decide_eq_true (String.le_trans (of_decide_eq_true hab) (of_decide_eq_true hbc))

theorem idNotAfter_total (a b : Row) : (decide (a.id ≤ b.id) || decide (b.id ≤ a.id)) = true := by
  rw [Bool.or_eq_true, decide_eq_true_eq, decide_eq_true_eq]
  exact String.le_total a.id b.id

/-- The index by insertion. Unlike the merges, insertions are structural recursions, by which the
index of a closed batch is evaluated. -/
theorem index_eq_insertionSort (constants : LifecycleConstants) (frozen : KeySet)
    (states : List ProblemState) (asOf : Int) : index constants frozen states asOf =
      ((groups states).flatMap fun g => rows constants frozen asOf
        (g.members.insertionSort fun a b => notAfter a b = true)).insertionSort
          fun a b => decide (a.id ≤ b.id) = true := by
  rw [index, mergeSort_eq_insertionSort idNotAfter_trans idNotAfter_total, groupedRows]
  simp only [mergeSort_eq_insertionSort notAfter_trans notAfter_total]

/-- **The lines stand by id.** -/
theorem sorted_index : (index constants frozen states asOf).Pairwise fun a b => a.id ≤ b.id :=
  (List.pairwise_mergeSort idNotAfter_trans idNotAfter_total _).imp of_decide_eq_true

/-- No two lines have the same id when no two states have. -/
theorem nodup_map_id_index (hn : (states.map ProblemState.id).Nodup) :
    ((index constants frozen states asOf).map Row.id).Nodup :=
  (map_id_index_perm constants frozen states asOf).nodup_iff.2 hn

/-- A line is known from its id when no two states have the same. -/
theorem eq_of_mem_index (hn : (states.map ProblemState.id).Nodup) {row line : Row}
    (hrow : row ∈ index constants frozen states asOf)
    (hline : line ∈ index constants frozen states asOf) (hid : row.id = line.id) : row = line :=
  List.inj_on_of_nodup_map (nodup_map_id_index hn) hrow hline hid

/-- **The lines stand strictly by id** when no two states have the same. -/
theorem increasing_index (hn : (states.map ProblemState.id).Nodup) :
    (index constants frozen states asOf).Pairwise fun a b => a.id < b.id :=
  sorted_index.imp₂ (fun _ _ => id_lt_of_le_of_ne) (List.pairwise_map.1 (nodup_map_id_index hn))

/-- The states behind a state in a list in strict order are those of the list that come after it. -/
theorem mem_later_iff {earlier : List ProblemState}
    (hsorted : (earlier ++ s :: later).Pairwise ProblemState.Precedes) :
    t ∈ later ↔ t ∈ earlier ++ s :: later ∧ s.Precedes t := by
  obtain ⟨-, hbehind, hbefore⟩ := List.pairwise_append.1 hsorted
  constructor
  · intro ht
    exact ⟨List.mem_append_right _ (List.mem_cons_of_mem _ ht),
      List.rel_of_pairwise_cons hbehind ht⟩
  · rintro ⟨ht, hst⟩
    rcases List.mem_append.1 ht with ht | ht
    · exact absurd hst (hbefore t ht s List.mem_cons_self).asymm
    · rcases List.mem_cons.1 ht with rfl | ht
      · exact absurd hst hst.asymm
      · exact ht

/-- Each state has a line that describes it. -/
theorem exists_describes (hn : (states.map ProblemState.id).Nodup) (hs : s ∈ states) :
    ∃ row ∈ index constants frozen states asOf, Describes constants frozen states asOf s row := by
  obtain ⟨g, hg, hmem⟩ := exists_group hs
  have hsorted := pairwise_precedes (nodup_of_mem_groups hn hg)
  have hs' : s ∈ g.members.mergeSort notAfter := List.mem_mergeSort.2 ((hmem s).2 ⟨hs, rfl⟩)
  obtain ⟨earlier, later, hl⟩ := List.append_of_mem hs'
  rw [hl] at hsorted
  have hlater (t : ProblemState) : t ∈ later ↔ t ∈ states ∧ t.key = s.key ∧ s.Precedes t := by
    rw [mem_later_iff hsorted, ← hl, List.mem_mergeSort, hmem, and_assoc]
  refine ⟨rowOf constants frozen asOf s later, ?_, describes_rowOf hn hlater
    (List.pairwise_append.1 hsorted).2.1.of_cons⟩
  refine List.mem_mergeSort.2 (List.mem_flatMap.2 ⟨g, hg, ?_⟩)
  rw [hl]
  exact mem_rows

/-- **The index describes the batch.** It has one line for each state, by id, and the line of each
state says what becomes of it. -/
theorem index_describes (constants : LifecycleConstants) (frozen : KeySet)
    (states : List ProblemState) (asOf : Int) (hn : (states.map ProblemState.id).Nodup) :
    ((index constants frozen states asOf).map Row.id).Perm (states.map ProblemState.id) ∧
      ((index constants frozen states asOf).Pairwise fun a b => a.id < b.id) ∧
      ∀ s ∈ states, ∃ row ∈ index constants frozen states asOf,
        Describes constants frozen states asOf s row :=
  ⟨map_id_index_perm constants frozen states asOf, increasing_index hn,
    fun _ hs => exists_describes hn hs⟩

/-- Two states of one field, of which the later covers the earlier. -/
def coveredPair : List ProblemState := [
  ⟨"ps-2", 2, .null, "field", ⟨0, 20⟩, "drought", none⟩,
  ⟨"ps-1", 1, .null, "field", ⟨5, 10⟩, "drought", some ""⟩]

theorem index_describes_coveredPair : (coveredPair.map ProblemState.id).Nodup ∧
    (((index ⟨.ofInt 1, .ofInt 5⟩ .empty coveredPair 25).map Row.id).Perm
        (coveredPair.map ProblemState.id) ∧
      ((index ⟨.ofInt 1, .ofInt 5⟩ .empty coveredPair 25).Pairwise fun a b => a.id < b.id) ∧
      ∀ s ∈ coveredPair, ∃ row ∈ index ⟨.ofInt 1, .ofInt 5⟩ .empty coveredPair 25,
        Describes ⟨.ofInt 1, .ofInt 5⟩ .empty coveredPair 25 s row) ∧
    index ⟨.ofInt 1, .ofInt 5⟩ .empty coveredPair 25 =
      [⟨"ps-1", .superseded, some "ps-2"⟩, ⟨"ps-2", .active, none⟩] := by
  have hn : (coveredPair.map ProblemState.id).Nodup := by decide
  refine ⟨hn, index_describes _ _ _ _ hn, ?_⟩
  rw [index_eq_insertionSort]
  decide +kernel

end Lifecycle

end ControlPlane
