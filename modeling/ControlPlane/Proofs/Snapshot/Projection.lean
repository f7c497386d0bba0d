import ControlPlane.Decision
import ControlPlane.Proofs.Json.Members

/-!
# What a snapshot holds

A snapshot of input objects gives for each input path what the path leads to, and nothing for any
other path. The path of the actions on offer leads through a list: it gives one entry for each item,
which is `null` for an item that names no action.

## Main statements

* `Snapshot.get?_project` : what a projected snapshot gives for a path.
* `InputPath.resolve?_candidateActions` : what the path of the actions on offer leads to.
* `InputPath.exists_code_iff` : which actions are found there.
-/

namespace ControlPlane

namespace Snapshot

theorem get?_filterMap (names : List String) (value? : String → Option Json) (path : String) :
    Members.get? (names.filterMap fun name => (value? name).map fun v => (name, v)) path =
      if path ∈ names then value? path else none := by
  induction names with
  | nil => rfl
  | cons name rest ih =>
    by_cases hname : name = path
    · subst hname
      rw [if_pos List.mem_cons_self]
      cases hv : value? name with
      | none =>
        rw [List.filterMap_cons_none (by rw [hv, Option.map_none]), ih, hv, ite_self]
      | some v =>
        rw [List.filterMap_cons_some (by rw [hv, Option.map_some]), Members.get?_cons, if_pos rfl]
    · have hmem : path ∈ name :: rest ↔ path ∈ rest := by
        rw [List.mem_cons, or_iff_right fun he => hname he.symm]
      simp only [hmem]
      cases hv : value? name with
      | none => rw [List.filterMap_cons_none (by rw [hv, Option.map_none]), ih]
      | some v =>
        rw [List.filterMap_cons_some (by rw [hv, Option.map_some]), Members.get?_cons,
          if_neg hname, ih]

/-- **A projected snapshot gives for each input path what it leads to, and nothing else.** -/
theorem get?_project {c : Constitution} {inputs : InputPath.Inputs} {path : String} :
    (project c inputs).get? path =
      if path ∈ c.inputPaths then InputPath.resolve? inputs path else none :=
  get?_filterMap c.inputPaths.names (InputPath.resolve? inputs) path

end Snapshot

namespace InputPath

variable {inputs : Inputs} {code : String}

/-- The path of the actions on offer goes to the list of candidates and takes the code of each. -/
theorem resolve?_candidateActions :
    resolve? inputs Ruleset.candidateActions =
      ((inputs.permissionSet.get? "candidate_actions").bind Json.items?).map fun items =>
        .array (items.map fun item => (descend [.member "action_code"] item).getD .null) := by
  have hsegments : segments Ruleset.candidateActions =
      ["permission_set", "candidate_actions[]", "action_code"] := by decide
  have hroot : Root.ofText? "permission_set" = some .permissionSet := by decide
  have hrest : ["candidate_actions[]", "action_code"].map Segment.ofText =
      [.list "candidate_actions", .member "action_code"] := by decide
  rw [resolve?, hsegments]
  simp only [hroot, hrest, Inputs.at, descend, List.isEmpty_cons, Option.bind_eq_bind,
    Option.bind_some, Bool.false_eq_true, if_false]
  cases inputs.permissionSet.get? "candidate_actions" with
  | none => rfl
  | some v => cases v <;> rfl

theorem descend_member_eq_string_iff {name : String} {item : Json} :
    (descend [.member name] item).getD .null = .string code ↔
      item.get? name = some (.string code) := by
  rw [descend]
  cases item.get? name with
  | none => simp
  | some v => cases v <;> simp [descend, Json.isNull]

/-- An action is found on offer exactly when a candidate names it. -/
theorem exists_code_iff :
    (∃ codes, resolve? inputs Ruleset.candidateActions = some (.array codes) ∧
      .string code ∈ codes) ↔
      ∃ items, inputs.permissionSet.get? "candidate_actions" = some (.array items) ∧
        ∃ item ∈ items, item.get? "action_code" = some (.string code) := by
  rw [resolve?_candidateActions]
  simp only [Option.map_eq_some_iff, Option.bind_eq_some_iff, Json.items?_eq_some_iff]
  constructor
  · rintro ⟨codes, ⟨items, ⟨v, hv, rfl⟩, hcodes⟩, hcode⟩
    obtain rfl := Json.array.inj hcodes
    obtain ⟨item, hitem, hdescend⟩ := List.mem_map.1 hcode
    exact ⟨items, hv, item, hitem, descend_member_eq_string_iff.1 hdescend⟩
  · rintro ⟨items, hv, item, hitem, hget⟩
    exact ⟨_, ⟨items, ⟨_, hv, rfl⟩, rfl⟩,
      List.mem_map.2 ⟨item, hitem, descend_member_eq_string_iff.2 hget⟩⟩

end InputPath

end ControlPlane
