import ControlPlane.Proofs.Lifecycle.LineUp

/-!
# Appending to the ledger

A state that comes after all others of its key stands last in its group. It is found by a scan only
where the scan found nothing before, so that what was superseded stays superseded by the same state,
and no line changes but to say that its state is superseded by the new one.

## Main definitions

* `Lifecycle.Appends` : a batch with one state more, the last of its key.
* `Lifecycle.Continues` : what the index of such a batch has to do with the index before.

## Main statements

* `Lifecycle.rowOf_concat` : a line with one state more behind it.
* `Lifecycle.HasLater.unchanged`, `Lifecycle.HasLater.concat` : what stands behind an old state.
* `Lifecycle.continues_index` : appending a state never rewrites what was settled.
-/

namespace ControlPlane.Lifecycle

/-- A batch arises from another one by a new state, wherever that stands: no id occurs twice, and the
new state comes after all states of its key. -/
structure Appends (states : List ProblemState) (n : ProblemState)
    (extended : List ProblemState) : Prop where
  perm : extended.Perm (n :: states)
  nodup : (extended.map ProblemState.id).Nodup
  last : ∀ p ∈ states, p.key = n.key → p.Precedes n

/-- The lines of a batch and those of the batch with a new state. There is one line more, that of the
new state, and each old line is kept or replaced by one of its id. -/
structure Continues (frozen : KeySet) (states : List ProblemState) (n : ProblemState)
    (old new : List Row) : Prop where
  map_id : (new.map Row.id).Perm (n.id :: old.map Row.id)
  nodup : (new.map Row.id).Nodup
  /-- What was superseded or frozen stays so, and superseded by the same state. -/
  settled : ∀ row ∈ old, row.state = .superseded ∨ row.state = .frozen → row ∈ new
  /-- The lines of states of other keys are kept. -/
  other_key : ∀ p ∈ states, p.key ≠ n.key → ∀ row ∈ old, row.id = p.id → row ∈ new
  /-- A line that is not kept says that its state is superseded by the new one. -/
  kept_or_superseded : ∀ row ∈ old, row ∈ new ∨ ⟨row.id, .superseded, some n.id⟩ ∈ new
  /-- A frozen state leaves all lines as they are. -/
  of_frozen : n.id ∈ frozen → ∀ row ∈ old, row ∈ new
  /-- The new state is not superseded. -/
  newest : ∀ row ∈ new, row.id = n.id → row.state ≠ .superseded

variable {constants : LifecycleConstants} {frozen : KeySet} {asOf : Int}
  {states extended later more : List ProblemState} {n p : ProblemState} {row : Row}

/-! ### One line -/

/-- A scan goes on only when it has found nothing. -/
theorem supersessor?_append (constants : LifecycleConstants) (frozen : KeySet) (p : ProblemState)
    (later more : List ProblemState) : supersessor? constants frozen p (later ++ more) =
      (supersessor? constants frozen p later).or (supersessor? constants frozen p more) := by
  unfold supersessor?
  split
  · rfl
  · rw [List.filter_append, List.find?_append]

/-- **A line with one state more behind it** is the same, or it said that its state is live and now
says that it is superseded by the new one. -/
theorem rowOf_concat (constants : LifecycleConstants) (frozen : KeySet) (asOf : Int)
    (p : ProblemState) (later : List ProblemState) (n : ProblemState) :
    rowOf constants frozen asOf p (later ++ [n]) = rowOf constants frozen asOf p later ∨
      n.id ∉ frozen ∧
        ((rowOf constants frozen asOf p later).state = .active ∨
          (rowOf constants frozen asOf p later).state = .expired) ∧
        rowOf constants frozen asOf p (later ++ [n]) = ⟨p.id, .superseded, some n.id⟩ := by
  by_cases hp : p.id ∈ frozen
  · exact .inl (by rw [rowOf_of_mem hp, rowOf_of_mem hp])
  have happend := supersessor?_append constants frozen p later [n]
  cases hlater : supersessor? constants frozen p later with
  | some t =>
    rw [hlater, Option.some_or] at happend
    exact .inl (by rw [rowOf_of_some happend, rowOf_of_some hlater])
  | none =>
    -- Only now is the new state looked at.
    rw [hlater, Option.none_or] at happend
    cases hn : supersessor? constants frozen p [n] with
    | none => exact .inl (by rw [rowOf_of_none hp (happend.trans hn), rowOf_of_none hp hlater])
    | some t =>
      obtain ⟨ht, hfrozen⟩ := mem_of_supersessor?_eq_some hn
      rw [List.mem_singleton] at ht
      subst ht
      exact .inr ⟨hfrozen, state_rowOf_of_none hp hlater, rowOf_of_some (happend.trans hn)⟩

/-! ### One group -/

/-- A list in strict order is what sorting makes of its states. -/
theorem mergeSort_eq_of_pairwise {members sorted : List ProblemState} (h : sorted.Perm members)
    (hsorted : sorted.Pairwise ProblemState.Precedes)
    (hn : (members.map ProblemState.id).Nodup) : members.mergeSort notAfter = sorted :=
  ((List.mergeSort_perm members notAfter).trans h.symm).eq_of_pairwise
    (fun _ _ _ _ hpq hqp => absurd hqp hpq.asymm) (pairwise_precedes hn) hsorted

namespace Appends

variable (h : Appends states n extended)

include h

/-- No id occurs twice without the new state either. -/
theorem nodup_of_cons : (states.map ProblemState.id).Nodup :=
  ((h.perm.map ProblemState.id).nodup_iff.1 h.nodup).of_cons

theorem ofKey_perm_of_ne {key : GovernanceKey} (hkey : key ≠ n.key) :
    (ofKey key states).Perm (ofKey key extended) := by
  have hperm : (ofKey key extended).Perm (ofKey key (n :: states)) := h.perm.filter _
  rw [ofKey, ofKey, List.filter_cons_of_neg (by simpa using hkey.symm)] at hperm
  exact hperm.symm

theorem ofKey_perm : (ofKey n.key states ++ [n]).Perm (ofKey n.key extended) := by
  have hperm : (ofKey n.key extended).Perm (ofKey n.key (n :: states)) := h.perm.filter _
  rw [ofKey, ofKey, List.filter_cons_of_pos (by simp)] at hperm
  exact (List.perm_append_singleton _ _).trans hperm.symm

/-- The states of another key stand as before. -/
theorem mergeSort_of_ne {key : GovernanceKey} (hkey : key ≠ n.key) :
    (ofKey key extended).mergeSort notAfter = (ofKey key states).mergeSort notAfter := by
  have hsort := List.mergeSort_perm (ofKey key states) notAfter
  exact mergeSort_eq_of_pairwise (hsort.trans (h.ofKey_perm_of_ne hkey))
    (pairwise_precedes (nodup_map_id_ofKey h.nodup_of_cons key)) (nodup_map_id_ofKey h.nodup key)

/-- The new state stands last of its key. -/
theorem mergeSort_concat : (ofKey n.key extended).mergeSort notAfter =
    (ofKey n.key states).mergeSort notAfter ++ [n] := by
  have hsort := List.mergeSort_perm (ofKey n.key states) notAfter
  have hsorted := pairwise_precedes (nodup_map_id_ofKey h.nodup_of_cons n.key)
  refine mergeSort_eq_of_pairwise ((hsort.append_right [n]).trans h.ofKey_perm) ?_
    (nodup_map_id_ofKey h.nodup n.key)
  refine List.pairwise_append.2 ⟨hsorted, List.pairwise_singleton _ _, ?_⟩
  intro p hp q hq
  obtain ⟨hp, hkey⟩ := mem_ofKey.1 (List.mem_mergeSort.1 hp)
  rw [List.mem_singleton.1 hq]
  exact h.last p hp hkey

end Appends

/-- Behind a state of another key stands what stood there. -/
theorem HasLater.unchanged (hp : HasLater states p later) (h : Appends states n extended)
    (hkey : p.key ≠ n.key) : HasLater extended p later := by
  obtain ⟨earlier, he⟩ := hp
  exact ⟨earlier, (h.mergeSort_of_ne hkey).trans he⟩

/-- Behind a state of the same key the new state stands last. -/
theorem HasLater.concat (hp : HasLater states p later) (h : Appends states n extended)
    (hkey : p.key = n.key) : HasLater extended p (later ++ [n]) := by
  obtain ⟨earlier, he⟩ := hp
  rw [hkey] at he
  exact ⟨earlier, by rw [hkey, h.mergeSort_concat, he, List.append_assoc, List.cons_append]⟩

theorem Appends.hasLater_nil (h : Appends states n extended) : HasLater extended n [] :=
  ⟨_, h.mergeSort_concat⟩

/-! ### The index -/

/-- What becomes of an old line: it is kept, or it said that its state is live, this state has the key
of the new one, which is not frozen, and is superseded by it. -/
theorem mem_index_or (h : Appends states n extended)
    (hrow : row ∈ index constants frozen states asOf) :
    row ∈ index constants frozen extended asOf ∨
      (∃ p ∈ states, p.id = row.id ∧ p.key = n.key) ∧ n.id ∉ frozen ∧
        (row.state = .active ∨ row.state = .expired) ∧
        ⟨row.id, .superseded, some n.id⟩ ∈ index constants frozen extended asOf := by
  obtain ⟨p, later, hp, rfl⟩ := mem_index_iff.1 hrow
  by_cases hkey : p.key = n.key
  · have hnew : rowOf constants frozen asOf p (later ++ [n]) ∈
        index constants frozen extended asOf :=
      mem_index_iff.2 ⟨p, later ++ [n], hp.concat h hkey, rfl⟩
    rcases rowOf_concat constants frozen asOf p later n with hsame | ⟨hfrozen, hlive, hrow'⟩
    · exact .inl (hsame ▸ hnew)
    · rw [hrow'] at hnew
      rw [rowOf_id]
      exact .inr ⟨⟨p, hp.mem, rfl, hkey⟩, hfrozen, hlive, hnew⟩
  · exact .inl (mem_index_iff.2 ⟨p, later, hp.unchanged h hkey, rfl⟩)

/-- The new state has a line of its own, which does not say that it is superseded. -/
theorem exists_mem_index_newest (constants : LifecycleConstants) (frozen : KeySet) (asOf : Int)
    (h : Appends states n extended) :
    ∃ row ∈ index constants frozen extended asOf, row.id = n.id ∧ row.state ≠ .superseded := by
  refine ⟨rowOf constants frozen asOf n [], mem_index_iff.2 ⟨n, [], h.hasLater_nil, rfl⟩,
    rowOf_id, ?_⟩
  by_cases hn : n.id ∈ frozen
  · rw [rowOf_of_mem hn]
    simp
  · have hnone : supersessor? constants frozen n [] = none := by rw [supersessor?, if_neg hn]; rfl
    have hlive : (rowOf constants frozen asOf n []).state = .active ∨
        (rowOf constants frozen asOf n []).state = .expired := state_rowOf_of_none hn hnone
    rcases hlive with hlive | hlive <;> simp [hlive]

/-- **Appending a state never rewrites what was settled.** -/
theorem continues_index (constants : LifecycleConstants) (frozen : KeySet) (asOf : Int)
    (h : Appends states n extended) :
    Continues frozen states n (index constants frozen states asOf)
      (index constants frozen extended asOf) where
  map_id := by
    have hold := map_id_index_perm constants frozen states asOf
    have hnew := map_id_index_perm constants frozen extended asOf
    exact hnew.trans ((h.perm.map ProblemState.id).trans (hold.symm.cons n.id))
  nodup := nodup_map_id_index h.nodup
  settled row hrow hsettled := by
    rcases mem_index_or h hrow with hnew | ⟨-, -, hlive, -⟩
    · exact hnew
    · rcases hlive with hlive | hlive <;> simp [hlive] at hsettled
  other_key p hp hkey row hrow hid := by
    rcases mem_index_or h hrow with hnew | ⟨⟨q, hq, hqid, hqkey⟩, -⟩
    · exact hnew
    · have hpq : p = q := List.inj_on_of_nodup_map h.nodup_of_cons hp hq (hid ▸ hqid.symm)
      exact absurd (hpq ▸ hqkey) hkey
  kept_or_superseded row hrow := (mem_index_or h hrow).imp_right fun ⟨_, _, _, hnew⟩ => hnew
  of_frozen hn row hrow := (mem_index_or h hrow).resolve_right fun ⟨_, hfrozen, _⟩ => hfrozen hn
  newest row hrow hid := by
    obtain ⟨line, hline, hlid, hstate⟩ := exists_mem_index_newest constants frozen asOf h
    rw [eq_of_mem_index h.nodup hrow hline (hid.trans hlid.symm)]
    exact hstate

/-- A state of the field of `coveredPair`, created after both. -/
def laterState : ProblemState := ⟨"ps-0", 3, .null, "field", ⟨0, 30⟩, "drought", none⟩

/-- The new state supersedes the one that was active, and what was superseded stays so. -/
theorem continues_index_laterState :
    Appends coveredPair laterState (laterState :: coveredPair) ∧
    Continues .empty coveredPair laterState
      (index ⟨.ofInt 1, .ofInt 5⟩ .empty coveredPair 25)
      (index ⟨.ofInt 1, .ofInt 5⟩ .empty (laterState :: coveredPair) 25) ∧
    index ⟨.ofInt 1, .ofInt 5⟩ .empty coveredPair 25 =
      [⟨"ps-1", .superseded, some "ps-2"⟩, ⟨"ps-2", .active, none⟩] ∧
    index ⟨.ofInt 1, .ofInt 5⟩ .empty (laterState :: coveredPair) 25 =
      [⟨"ps-0", .active, none⟩, ⟨"ps-1", .superseded, some "ps-2"⟩,
        ⟨"ps-2", .superseded, some "ps-0"⟩] := by
  have h : Appends coveredPair laterState (laterState :: coveredPair) := {
    perm := .refl _
    nodup := by decide
    last := fun p hp _ => by
      simp only [coveredPair, List.mem_cons, List.not_mem_nil, or_false] at hp
      rcases hp with rfl | rfl <;> exact .inl (by decide) }
  refine ⟨h, continues_index _ _ _ h, ?_⟩
  rw [index_eq_insertionSort, index_eq_insertionSort]
  decide +kernel

end ControlPlane.Lifecycle
