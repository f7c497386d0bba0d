import ControlPlane.Condition.Holds
import ControlPlane.Proofs.Sequencing
import ControlPlane.Proofs.Snapshot.Projection

/-!
# How snapshots are made

A snapshot is taken from input objects, or it is put together from pairs of paths and values. Either
way its paths are input paths of the constitution, each of them once and in their order, and none of
its values is `null`. Nothing else is kept: a snapshot of this form is the one that its own entries
make, in whatever order they come. It is also what the test for presence relies on, to which a `null`
in a snapshot would be an absent field.

## Main definitions

* `Snapshot.IsMade` : a snapshot comes from input objects or from pairs.
* `Snapshot.Conforms` : the form that such snapshots have.

## Main statements

* `InputPath.ne_null_of_descend` : no path leads to `null`.
* `Snapshot.Conforms.insert`, `Snapshot.conforms_insertPairs` : adding pairs keeps the form.
* `Snapshot.isMade_iff` : the snapshots that are made are those of this form.
* `Snapshot.ofPairs_eq_ok_of_isMade` : a snapshot is made again from its entries.
-/

namespace ControlPlane

theorem Constitution.checkInputPath_eq_ok_iff {c : Constitution} {path : String} :
    c.checkInputPath path = .ok () ↔ path ∈ c.inputPaths := by
  rw [checkInputPath]
  split <;> simp_all

namespace InputPath

/-- **No path leads to `null`.** A path that goes through a list leads to a list, even where the items
lead to nothing. -/
theorem ne_null_of_descend {segments : List Segment} {v w : Json}
    (h : descend segments v = some w) : w ≠ .null := by
  induction segments generalizing v with
  | nil =>
    rw [descend] at h
    split at h
    · exact absurd h (by simp)
    · next hnull =>
      rw [← Option.some.inj h]
      exact fun hv => hnull (Json.isNull_iff.2 hv)
  | cons segment rest ih =>
    cases segment with
    | member name =>
      rw [descend] at h
      obtain ⟨part, -, hpart⟩ := Option.bind_eq_some_iff.1 h
      exact ih hpart
    | list name =>
      rw [descend] at h
      simp only [Option.bind_eq_bind, Option.bind_eq_some_iff] at h
      obtain ⟨_, -, items, -, hlist⟩ := h
      rw [← Option.some.inj hlist]
      exact Json.noConfusion

theorem ne_null_of_resolve? {inputs : Inputs} {path : String} {v : Json}
    (h : resolve? inputs path = some v) : v ≠ .null := by
  unfold resolve? at h
  split at h
  · exact absurd h (by simp)
  · obtain ⟨root, -, hdescend⟩ := Option.bind_eq_some_iff.1 h
    exact ne_null_of_descend hdescend

end InputPath

namespace Snapshot

/-- A snapshot is taken from input objects or put together from pairs. -/
inductive IsMade (c : Constitution) : Snapshot → Prop
  | project (inputs : InputPath.Inputs) : IsMade c (project c inputs)
  | ofPairs {pairs : List (String × Json)} {s : Snapshot} (h : ofPairs c pairs = .ok s) : IsMade c s

/-- The paths of a snapshot are input paths in their order, and none of its values is `null`. -/
structure Conforms (c : Constitution) (s : Snapshot) : Prop where
  sorted : Members.Sorted s.entries
  path_mem : ∀ e ∈ s.entries, e.1 ∈ c.inputPaths
  value_ne : ∀ e ∈ s.entries, e.2 ≠ .null

variable {c : Constitution} {s t : Snapshot} {path : String} {value : Json}
  {pairs : List (String × Json)}

/-! ### From input objects -/

theorem conforms_project (c : Constitution) (inputs : InputPath.Inputs) :
    (project c inputs).Conforms c := by
  have hentry {name : String} {e : String × Json}
      (he : (InputPath.resolve? inputs name).map (fun value => (name, value)) = some e) :
      e.1 = name ∧ e.2 ≠ .null := by
    obtain ⟨v, hv, rfl⟩ := Option.map_eq_some_iff.1 he
    exact ⟨rfl, InputPath.ne_null_of_resolve? hv⟩
  refine ⟨?_, ?_, ?_⟩
  · refine c.inputPaths.increasing.filterMap _ fun a b hab e he e' he' => ?_
    rw [(hentry he).1, (hentry he').1]
    exact hab
  · intro e he
    obtain ⟨name, hname, he⟩ := List.mem_filterMap.1 he
    exact (hentry he).1 ▸ hname
  · intro e he
    obtain ⟨name, -, he⟩ := List.mem_filterMap.1 he
    exact (hentry he).2

/-! ### From pairs -/

theorem conforms_empty (c : Constitution) : empty.Conforms c :=
  ⟨.nil, by simp [empty], by simp [empty]⟩

/-- **Giving an input path its value keeps the form.** -/
theorem Conforms.insert (h : s.Conforms c) (hpath : path ∈ c.inputPaths) :
    (s.insert path value).Conforms c := by
  unfold Snapshot.insert
  split
  · exact h
  · next hnull =>
    have hentry {e : String × Json} (he : e ∈ Members.insert path value s.entries) :
        e.1 ∈ c.inputPaths ∧ e.2 ≠ .null := by
      rcases Members.mem_insert he with rfl | he
      · exact ⟨hpath, fun hv => hnull (Json.isNull_iff.2 hv)⟩
      · exact ⟨h.path_mem e he, h.value_ne e he⟩
    exact ⟨Members.sorted_insert h.sorted, fun e he => (hentry he).1, fun e he => (hentry he).2⟩

/-- **Adding pairs keeps the form.** -/
theorem conforms_insertPairs (h : s.Conforms c) (ht : insertPairs c pairs s = .ok t) :
    t.Conforms c := by
  induction pairs generalizing s with
  | nil => exact Except.ok.inj ht ▸ h
  | cons pair rest ih =>
    obtain ⟨hpath, ht⟩ := bind_unit_eq_ok.1 ht
    exact ih (h.insert (Constitution.checkInputPath_eq_ok_iff.1 hpath)) ht

/-- Pairs of input paths with values other than `null` are put into their places. -/
theorem insertPairs_eq_ok (hpath : ∀ e ∈ pairs, e.1 ∈ c.inputPaths)
    (hvalue : ∀ e ∈ pairs, e.2 ≠ .null) : insertPairs c pairs s =
      .ok ⟨pairs.foldl (fun sorted e => Members.insert e.1 e.2 sorted) s.entries⟩ := by
  induction pairs generalizing s with
  | nil => rfl
  | cons pair rest ih =>
    obtain ⟨hpair, hrest⟩ := List.forall_mem_cons.1 hpath
    obtain ⟨hne, hrestne⟩ := List.forall_mem_cons.1 hvalue
    have hinsert : s.insert pair.1 pair.2 = ⟨Members.insert pair.1 pair.2 s.entries⟩ := by
      rw [Snapshot.insert, if_neg fun hnull => hne (Json.isNull_iff.1 hnull)]
    refine bind_unit_eq_ok.2 ⟨Constitution.checkInputPath_eq_ok_iff.2 hpair, ?_⟩
    rw [hinsert, ih hrest hrestne]
    rfl

/-! ### Both ways -/

/-- **A snapshot of the form is made again from its entries**, in whatever order they come. -/
theorem Conforms.ofPairs_eq_ok (h : s.Conforms c) (hperm : pairs.Perm s.entries) :
    Snapshot.ofPairs c pairs = .ok s := by
  have hentries : Snapshot.ofPairs c pairs = .ok ⟨Members.ofList pairs⟩ :=
    insertPairs_eq_ok (fun e he => h.path_mem e (hperm.mem_iff.1 he))
      fun e he => h.value_ne e (hperm.mem_iff.1 he)
  rw [hentries, Members.ofList_eq_of_perm h.sorted hperm]

/-- **The snapshots that are made are those of the form.** -/
theorem isMade_iff : s.IsMade c ↔ s.Conforms c := by
  constructor
  · rintro (inputs | hpairs)
    · exact conforms_project c inputs
    · exact conforms_insertPairs (conforms_empty c) hpairs
  · intro h
    exact .ofPairs (h.ofPairs_eq_ok (.refl _))

/-- A field exists in a snapshot of the form if the snapshot has an entry for it. -/
theorem Conforms.holds_fieldExists (h : s.Conforms c) (path : String) :
    (Condition.fieldExists path).holds s = s.contains path := by
  rw [Condition.holds, contains]
  cases hv : s.get? path with
  | none => rfl
  | some v =>
    have hnull : ¬ v.isNull = true :=
      fun hnull => h.value_ne _ (Members.mem_of_get? hv) (Json.isNull_iff.1 hnull)
    simpa using hnull

/-- **Whichever way a snapshot is made**, its paths are input paths, nothing in it is `null`, its
entries make it again in any order, and the fields that exist are those that it has. -/
theorem ofPairs_eq_ok_of_isMade (h : s.IsMade c) :
    (∀ e ∈ s.entries, e.1 ∈ c.inputPaths ∧ e.2 ≠ .null) ∧
      (∀ pairs : List (String × Json), pairs.Perm s.entries → Snapshot.ofPairs c pairs = .ok s) ∧
      ∀ path, (Condition.fieldExists path).holds s = true ↔ s.contains path = true := by
  have hconforms := isMade_iff.1 h
  refine ⟨fun e he => ⟨hconforms.path_mem e he, hconforms.value_ne e he⟩, ?_, ?_⟩
  · intro pairs hperm
    exact hconforms.ofPairs_eq_ok hperm
  · intro path
    rw [hconforms.holds_fieldExists]

/-- Input objects with a confidence that is `null`, and with a candidate that names no action. -/
def sparseInputs : InputPath.Inputs where
  problemState := .object [("confidence", .null), ("problem_type", .string "DROUGHT")]
  uncertaintyEnvelope := .null
  permissionSet := .object [("candidate_actions",
    .array [.object [("action_code", .string "AO-ENTER")], .object []])]

/-- Pairs with several values for one path, the last of which is `null`. -/
def repeatedPairs : List (String × Json) := [
  ("problem_state.confidence", .string "LOW"), ("permission_set.scale", .string "FIELD"),
  ("problem_state.confidence", .string "HIGH"), ("problem_state.confidence", .null)]

/-- The snapshot of `repeatedPairs`. -/
def confidentSnapshot : Snapshot where
  entries := [("permission_set.scale", .string "FIELD"), ("problem_state.confidence", .string "HIGH")]

theorem ofPairs_eq_ok_of_isMade_repeatedPairs :
    (project .standard sparseInputs).IsMade .standard ∧
      (project .standard sparseInputs).get? Ruleset.candidateActions =
        some (.array [.string "AO-ENTER", .null]) ∧
      ofPairs .standard (project .standard sparseInputs).entries.reverse =
        .ok (project .standard sparseInputs) ∧
      (Condition.fieldExists "problem_state.confidence").holds (project .standard sparseInputs) =
        false ∧
      ofPairs .standard repeatedPairs = .ok confidentSnapshot ∧
      confidentSnapshot.IsMade .standard ∧
      ofPairs .standard confidentSnapshot.entries.reverse = .ok confidentSnapshot ∧
      (Condition.fieldExists "problem_state.confidence").holds confidentSnapshot = true := by
  have hstandard {path : String} (h : path ∈ Constitution.standardInputPaths) :
      path ∈ Constitution.standard.inputPaths := KeySet.mem_ofList.2 h
  have hprojected : (project .standard sparseInputs).IsMade .standard := .project sparseInputs
  have hactions : (project .standard sparseInputs).get? Ruleset.candidateActions =
      some (.array [.string "AO-ENTER", .null]) := by
    rw [get?_project, if_pos (hstandard (by decide))]
    rfl
  have habsent : ¬ (project .standard sparseInputs).contains "problem_state.confidence" = true := by
    rw [contains, get?_project, if_pos (hstandard (by decide))]
    decide
  have hpairs : ofPairs .standard repeatedPairs = .ok confidentSnapshot := by
    have hscale : Constitution.standard.checkInputPath "permission_set.scale" = .ok () :=
      Constitution.checkInputPath_eq_ok_iff.2 (hstandard (by decide))
    have hconfidence : Constitution.standard.checkInputPath "problem_state.confidence" = .ok () :=
      Constitution.checkInputPath_eq_ok_iff.2 (hstandard (by decide))
    rw [ofPairs, repeatedPairs]
    simp only [insertPairs, hscale, hconfidence]
    rfl
  obtain ⟨-, hagain, hexists⟩ := ofPairs_eq_ok_of_isMade hprojected
  obtain ⟨-, hagain', hexists'⟩ := ofPairs_eq_ok_of_isMade (IsMade.ofPairs hpairs)
  exact ⟨hprojected, hactions, hagain _ (List.reverse_perm _),
    Bool.eq_false_iff.2 fun h => habsent ((hexists _).1 h), hpairs, .ofPairs hpairs,
    hagain' _ (List.reverse_perm _), (hexists' _).2 (by decide)⟩

end Snapshot

end ControlPlane
