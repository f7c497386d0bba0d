import ControlPlane.Proofs.Lifecycle.LineUp

/-!
# Chains of supersession

A superseded state names another one by its id, whose line may name a third. Each of these stands
behind the one before in the order of one group, so that a chain comes to an end before the group is
exhausted, without a repetition, and at a line that names no other. Frozen states are named by none:
a chain that goes on at all ends at a live state.

## Main definitions

* `Lifecycle.Succession` : the lines that are met from a line on, up to one that names no other.
* `Lifecycle.SettlesLive` : what is to be said of such a chain.

## Main statements

* `Lifecycle.exists_succession` : each chain comes to an end.
* `Lifecycle.exists_next` : what a line names stands behind its state, in the same group.
* `Lifecycle.Succession.map_id_sublist` : a chain goes through a group in the order of the group.
* `Lifecycle.succession_settlesLive` : each chain ends at a live state of its own group.
-/

namespace ControlPlane.Lifecycle

/-- The lines that are met when one goes from a line to the line of the state that it names, as long
as a line names one. -/
inductive Succession (lines : List Row) : Row → List Row → Prop
  | stop {row : Row} (h : row.supersededBy = none) : Succession lines row [row]
  | step {row next : Row} {chain : List Row} (h : row.supersededBy = some next.id)
      (hnext : next ∈ lines) (rest : Succession lines next chain) :
      Succession lines row (row :: chain)

/-- A chain from the line of a state keeps to the group of the state and ends at a live state, unless
it ends where it starts. -/
structure SettlesLive (frozen : KeySet) (states : List ProblemState) (s : ProblemState)
    (chain : List Row) : Prop where
  /-- What is named is a state of the same key that is not frozen. -/
  named : ∀ row ∈ chain, ∀ id, row.supersededBy = some id →
    ∃ t ∈ states, t.id = id ∧ t.key = s.key ∧ t.id ∉ frozen
  nodup : (chain.map Row.id).Nodup
  /-- There are fewer steps than states in the group. -/
  length_le : chain.length ≤ (ofKey s.key states).length
  /-- The last line names no state. It is the only one, or that of a live state. -/
  last : ∃ row, chain.getLast? = some row ∧ row.supersededBy = none ∧
    (chain = [row] ∨ row.state = .active ∨ row.state = .expired)

variable {constants : LifecycleConstants} {frozen : KeySet} {asOf : Int}
  {states later : List ProblemState} {p : ProblemState} {row next : Row} {chain : List Row}

/-! ### One step -/

/-- A line names what the scan finds. -/
theorem supersededBy_rowOf : (rowOf constants frozen asOf p later).supersededBy =
    (supersessor? constants frozen p later).map ProblemState.id := by
  by_cases hp : p.id ∈ frozen
  · rw [rowOf_of_mem hp, supersessor?, if_pos hp, Option.map_none]
  · cases hsup : supersessor? constants frozen p later with
    | some t => rw [rowOf_of_some hsup, Option.map_some]
    | none => rw [rowOf_of_none hp hsup, Option.map_none]

/-- **Each chain comes to an end**, because less stands behind each state than behind the one
before. -/
theorem exists_succession (hp : HasLater states p later) : ∃ chain,
    Succession (index constants frozen states asOf) (rowOf constants frozen asOf p later) chain := by
  induction hlength : later.length using Nat.strongRecOn generalizing p later with
  | ind length ih =>
    cases hsup : supersessor? constants frozen p later with
    | none => exact ⟨_, .stop (by rw [supersededBy_rowOf, hsup, Option.map_none])⟩
    | some t =>
      obtain ⟨-, behind, hbehind, hsub⟩ := hp.of_mem (mem_of_supersessor?_eq_some hsup).1
      have hshorter : behind.length < length := hlength ▸ hsub.length_le
      obtain ⟨chain, hchain⟩ := ih behind.length hshorter hbehind rfl
      refine ⟨_, .step ?_ (mem_index_iff.2 ⟨t, behind, hbehind, rfl⟩) hchain⟩
      rw [supersededBy_rowOf, hsup, Option.map_some, rowOf_id]

section Distinct

variable (hn : (states.map ProblemState.id).Nodup)

include hn

/-- **What a line names stands behind its state**, in the same group, and is not frozen. -/
theorem exists_next (hp : HasLater states p later)
    (hsup : (rowOf constants frozen asOf p later).supersededBy = some next.id)
    (hnext : next ∈ index constants frozen states asOf) :
    ∃ t behind, HasLater states t behind ∧ next = rowOf constants frozen asOf t behind ∧
      t.key = p.key ∧ t.id ∉ frozen ∧ (t :: behind).Sublist later := by
  rw [supersededBy_rowOf, Option.map_eq_some_iff] at hsup
  obtain ⟨t, ht, hid⟩ := hsup
  obtain ⟨hlater, hfrozen⟩ := mem_of_supersessor?_eq_some ht
  obtain ⟨hkey, behind, hbehind, hsub⟩ := hp.of_mem hlater
  have hline : rowOf constants frozen asOf t behind ∈ index constants frozen states asOf :=
    mem_index_iff.2 ⟨t, behind, hbehind, rfl⟩
  have heq : next = rowOf constants frozen asOf t behind :=
    eq_of_mem_index hn hnext hline (by rw [rowOf_id, hid])
  exact ⟨t, behind, hbehind, heq, hkey, hfrozen, hsub⟩

/-! ### What a chain meets -/

/-- **A chain goes through a group in the order of the group.** -/
theorem Succession.map_id_sublist (h : Succession (index constants frozen states asOf) row chain)
    (hp : HasLater states p later) (hrow : row = rowOf constants frozen asOf p later) :
    (chain.map Row.id).Sublist ((p :: later).map ProblemState.id) := by
  -- By the steps of the chain: what stands behind the next state stands behind this one.
  induction h generalizing p later with
  | stop h =>
    rw [hrow, List.map_singleton, rowOf_id, List.map_cons]
    exact (List.nil_sublist _).cons_cons _
  | step hsup hnext rest ih =>
    obtain ⟨t, behind, hbehind, heq, -, -, hsub⟩ := exists_next hn hp (hrow ▸ hsup) hnext
    rw [hrow, List.map_cons, rowOf_id, List.map_cons]
    exact ((ih hbehind heq).trans (hsub.map ProblemState.id)).cons_cons _

/-- A chain meets lines of one group only. -/
theorem Succession.exists_hasLater (h : Succession (index constants frozen states asOf) row chain)
    (hp : HasLater states p later) (hrow : row = rowOf constants frozen asOf p later) :
    ∀ line ∈ chain, ∃ q behind, HasLater states q behind ∧ q.key = p.key ∧
      line = rowOf constants frozen asOf q behind := by
  induction h generalizing p later with
  | stop h =>
    intro line hline
    exact ⟨p, later, hp, rfl, (List.mem_singleton.1 hline).trans hrow⟩
  | step hsup hnext rest ih =>
    obtain ⟨t, behind, hbehind, heq, hkey, -, -⟩ := exists_next hn hp (hrow ▸ hsup) hnext
    intro line hline
    rcases List.mem_cons.1 hline with rfl | hline
    · exact ⟨p, later, hp, rfl, hrow⟩
    · obtain ⟨q, further, hq, hqkey, hqline⟩ := ih hbehind heq line hline
      exact ⟨q, further, hq, hqkey.trans hkey, hqline⟩

/-- A chain from a state that is not frozen ends at a live state. -/
theorem Succession.exists_live (h : Succession (index constants frozen states asOf) row chain)
    (hp : HasLater states p later) (hrow : row = rowOf constants frozen asOf p later)
    (hfrozen : p.id ∉ frozen) : ∃ line, chain.getLast? = some line ∧ line.supersededBy = none ∧
      (line.state = .active ∨ line.state = .expired) := by
  induction h generalizing p later with
  | stop h =>
    refine ⟨_, List.getLast?_singleton, h, ?_⟩
    rw [hrow, supersededBy_rowOf, Option.map_eq_none_iff] at h
    exact hrow ▸ state_rowOf_of_none hfrozen h
  | step hsup hnext rest ih =>
    obtain ⟨t, behind, hbehind, heq, -, htfrozen, -⟩ := exists_next hn hp (hrow ▸ hsup) hnext
    obtain ⟨line, hlast, hline⟩ := ih hbehind heq htfrozen
    exact ⟨line, by rw [List.getLast?_cons, hlast, Option.getD_some], hline⟩

theorem Succession.exists_last (h : Succession (index constants frozen states asOf) row chain)
    (hp : HasLater states p later) (hrow : row = rowOf constants frozen asOf p later) :
    ∃ line, chain.getLast? = some line ∧ line.supersededBy = none ∧
      (chain = [line] ∨ line.state = .active ∨ line.state = .expired) := by
  cases h with
  | stop h => exact ⟨row, List.getLast?_singleton, h, .inl rfl⟩
  | step hsup hnext rest =>
    obtain ⟨t, behind, hbehind, heq, -, htfrozen, -⟩ := exists_next hn hp (hrow ▸ hsup) hnext
    obtain ⟨line, hlast, hnone, hlive⟩ := rest.exists_live hn hbehind heq htfrozen
    exact ⟨line, by rw [List.getLast?_cons, hlast, Option.getD_some], hnone, .inr hlive⟩

/-! ### The index -/

theorem Succession.settlesLive (h : Succession (index constants frozen states asOf) row chain)
    (hp : HasLater states p later) (hrow : row = rowOf constants frozen asOf p later) :
    SettlesLive frozen states p chain := by
  have hsub := h.map_id_sublist hn hp hrow
  have hgroup : (p :: later).Sublist ((ofKey p.key states).mergeSort notAfter) := by
    obtain ⟨earlier, he⟩ := hp
    exact he ▸ List.sublist_append_right earlier (p :: later)
  have hids : (((ofKey p.key states).mergeSort notAfter).map ProblemState.id).Nodup :=
    ((List.mergeSort_perm _ _).map ProblemState.id).nodup_iff.2 (nodup_map_id_ofKey hn p.key)
  refine ⟨fun line hline id hid => ?_, ?_, ?_, h.exists_last hn hp hrow⟩
  · obtain ⟨q, behind, hq, hqkey, rfl⟩ := h.exists_hasLater hn hp hrow line hline
    rw [supersededBy_rowOf, Option.map_eq_some_iff] at hid
    obtain ⟨t, ht, rfl⟩ := hid
    obtain ⟨hmem, hfrozen⟩ := mem_of_supersessor?_eq_some ht
    obtain ⟨htkey, further, ht', -⟩ := hq.of_mem hmem
    exact ⟨t, ht'.mem, rfl, htkey.trans hqkey, hfrozen⟩
  · exact hids.sublist (hsub.trans (hgroup.map ProblemState.id))
  · have hlength := (hsub.trans (hgroup.map ProblemState.id)).length_le
    rwa [List.length_map, List.length_map, List.length_mergeSort] at hlength

end Distinct

/-- **Each chain ends at a live state of its own group.** From each line of the index there is a
chain, and it names states of the same key that are not frozen, comes to no id twice, has fewer steps
than there are states of the key, and ends where it starts or at a state that is active or expired. -/
theorem succession_settlesLive (constants : LifecycleConstants) (frozen : KeySet)
    (states : List ProblemState) (asOf : Int) (hn : (states.map ProblemState.id).Nodup) :
    ∀ row ∈ index constants frozen states asOf, ∃ s ∈ states, s.id = row.id ∧
      (∃ chain, Succession (index constants frozen states asOf) row chain) ∧
      ∀ chain, Succession (index constants frozen states asOf) row chain →
        SettlesLive frozen states s chain := by
  intro row hrow
  obtain ⟨p, later, hp, rfl⟩ := mem_index_iff.1 hrow
  exact ⟨p, hp.mem, rowOf_id.symm, exists_succession hp, fun _ h => h.settlesLive hn hp rfl⟩

/-- Three states of one field, each covered by the next. -/
def coveredInTurn : List ProblemState := [
  ⟨"ps-3", 3, .null, "field", ⟨0, 30⟩, "drought", none⟩,
  ⟨"ps-2", 2, .null, "field", ⟨0, 20⟩, "drought", none⟩,
  ⟨"ps-1", 1, .null, "field", ⟨5, 10⟩, "drought", some ""⟩]

/-- The chain from the first state passes over the second, which is frozen. -/
theorem succession_settlesLive_coveredInTurn : (coveredInTurn.map ProblemState.id).Nodup ∧
    (∀ row ∈ index ⟨.ofInt 1, .ofInt 5⟩ (.ofList ["ps-2"]) coveredInTurn 25,
      ∃ s ∈ coveredInTurn, s.id = row.id ∧
        (∃ chain, Succession (index ⟨.ofInt 1, .ofInt 5⟩ (.ofList ["ps-2"]) coveredInTurn 25) row
          chain) ∧
        ∀ chain, Succession (index ⟨.ofInt 1, .ofInt 5⟩ (.ofList ["ps-2"]) coveredInTurn 25) row
          chain → SettlesLive (.ofList ["ps-2"]) coveredInTurn s chain) ∧
    index ⟨.ofInt 1, .ofInt 5⟩ (.ofList ["ps-2"]) coveredInTurn 25 =
      [⟨"ps-1", .superseded, some "ps-3"⟩, ⟨"ps-2", .frozen, none⟩, ⟨"ps-3", .active, none⟩] := by
  have hn : (coveredInTurn.map ProblemState.id).Nodup := by decide
  refine ⟨hn, succession_settlesLive _ _ _ _ hn, ?_⟩
  rw [index_eq_insertionSort]
  decide +kernel

end ControlPlane.Lifecycle
