import ControlPlane.Proofs.Json.Pointer
import ControlPlane.Proofs.Ruleset.Document

/-!
# What a report points at

Validation goes down into a document and puts a step in front of whatever it finds below. So each
violation lies at a part of the document, and of the violations by a list or a closed object those
below a part are the ones that the part has on its own. A choice does not go down: what is wrong below
it is one violation at its own place, which is still a violation by everything around it.

## Main definitions

* `Contract.Reports` : validation reports a violation by a document.

## Main statements

* `Constraint.exists_at?_of_mem_violations` : a violation lies at a part of the value.
* `Constraint.exists_below_key_iff`, `Constraint.exists_below_index_iff` : the violations below a part
  are those of the part.
* `RulesetSchema.report_locates` : a refused ruleset is told all of its broken rules, and each
  violation lies at a part of the document.
-/

namespace ControlPlane

/-- Validation reports a violation by a document. -/
def Contract.Reports (c : Contract) (v : Json) (e : Violation) : Prop :=
  ∃ refusal, c.check v = .error refusal ∧ e ∈ refusal.violations

theorem Contract.reports_iff {c : Contract} {v : Json} {e : Violation} :
    c.Reports v e ↔ e ∈ c.violations v := by
  rw [Reports, check]
  split
  · next h => simp [List.isEmpty_iff.1 h]
  · simp

namespace Constraint

variable {δ : Type} {definitions : δ → Constraint δ} {c : Constraint δ} {v : Json} {e : Violation}
  {items : List Json} {members : Members} {s : Schema δ} {shape : RecordShape δ}

/-! ### One step down -/

theorem place_of_mem_here {complaints : List Complaint} (he : e ∈ here complaints) :
    e.place = [] := by
  obtain ⟨complaint, -, rfl⟩ := List.mem_map.1 he
  rfl

/-- The violations of items are those of each item, seen from the list. -/
theorem mem_itemViolations_iff {index : Nat} :
    e ∈ itemViolations definitions index items s ↔
      ∃ i item, items[i]? = some item ∧ ∃ below ∈ violations definitions item (s.resolve definitions),
        below.under [.index (index + i)] ("items" :: s.route) = e := by
  induction items generalizing index with
  | nil => simp [itemViolations]
  | cons item rest ih =>
    rw [itemViolations, List.mem_append, List.mem_map, ih]
    constructor
    · rintro (hitem | ⟨i, later, hlater, hbelow⟩)
      · exact ⟨0, item, rfl, hitem⟩
      · refine ⟨i + 1, later, hlater, ?_⟩
        rwa [Nat.add_comm i, ← Nat.add_assoc]
    · rintro ⟨i, later, hlater, hbelow⟩
      cases i with
      | zero =>
        obtain rfl : item = later := Option.some.inj hlater
        exact .inl hbelow
      | succ i =>
        refine .inr ⟨i, later, hlater, ?_⟩
        rwa [Nat.add_comm i, ← Nat.add_assoc] at hbelow

/-- The violations of members are those of each member with a schema, seen from the object. -/
theorem mem_memberViolations_iff :
    e ∈ memberViolations definitions members shape ↔
      ∃ m ∈ members, ∃ s, shape.property? m.1 = some s ∧
        ∃ below ∈ violations definitions m.2 (s.resolve definitions),
          below.under [.key m.1] ("properties" :: m.1 :: s.route) = e := by
  induction members with
  | nil => simp [memberViolations]
  | cons m rest ih =>
    rw [memberViolations, List.mem_append, ih, List.exists_mem_cons_iff]
    refine or_congr_left ?_
    cases shape.property? m.1 with
    | none => simp
    | some s => simp

/-- **A violation lies at the value itself or below one of its parts**, and then it is a violation by
the part. -/
theorem exists_part_of_mem_violations (hv : v.WellFormed) (he : e ∈ violations definitions v c) :
    e.place = [] ∨ ∃ step part, v.step? step = some part ∧ part.WellFormed ∧
      ∃ c', ∃ below ∈ violations definitions part c', e.place = step :: below.place := by
  have hchoice {alternatives : List (RecordShape δ)}
      (he : e ∈ violations definitions v (.oneOf alternatives)) : e.place = [] := by
    rw [violations] at he
    split at he
    · exact absurd he List.not_mem_nil
    · exact place_of_mem_here he
  cases v with
  | array items =>
    cases c with
    | list least s =>
      rw [violations, List.mem_append] at he
      rcases he with he | he
      · obtain ⟨i, item, hitem, below, hbelow, rfl⟩ := mem_itemViolations_iff.1 he
        rw [Nat.zero_add]
        exact .inr ⟨.index i, item, hitem, hv.of_mem (List.mem_of_getElem? hitem), _, below,
          hbelow, rfl⟩
      · exact .inl (place_of_mem_here he)
    | oneOf alternatives => exact .inl (hchoice he)
    | _ => exact .inl (place_of_mem_here he)
  | object members =>
    cases c with
    | record shape =>
      rw [violations, List.mem_append] at he
      rcases he with he | he
      · obtain ⟨m, hm, s, -, below, hbelow, rfl⟩ := mem_memberViolations_iff.1 he
        exact .inr ⟨.key m.1, m.2, (Members.get?_eq_some_iff hv.sorted).2 hm,
          hv.of_mem_members hm, _, below, hbelow, rfl⟩
      · exact .inl (place_of_mem_here he)
    | oneOf alternatives => exact .inl (hchoice he)
    | _ => exact .inl (place_of_mem_here he)
  | _ =>
    cases c with
    | oneOf alternatives => exact .inl (hchoice he)
    | _ => exact .inl (place_of_mem_here he)

/-! ### All the way down -/

/-- **A violation lies at a part of the value.** -/
theorem exists_at?_of_mem_violations (hv : v.WellFormed) (he : e ∈ violations definitions v c) :
    ∃ part, v.at? e.place = some part := by
  generalize hplace : e.place = place
  induction place generalizing v c e with
  | nil => exact ⟨v, rfl⟩
  | cons step rest ih =>
    rcases exists_part_of_mem_violations hv he with hhere | ⟨step', part, hstep, hpart, c', below,
      hbelow, hbelowPlace⟩
    · exact absurd (hplace.symm.trans hhere) (List.cons_ne_nil _ _)
    · obtain ⟨rfl, hrest⟩ := List.cons.inj (hplace.symm.trans hbelowPlace)
      obtain ⟨found, hfound⟩ := ih hpart hbelow hrest.symm
      refine ⟨found, ?_⟩
      rw [Json.at?_cons, hstep, Option.bind_some, hfound]

/-! ### Violations below a part -/

/-- There are violations somewhere in a value exactly if it is not accepted. -/
theorem exists_below_nil_iff : (∃ e ∈ violations definitions v c, [] <+: e.place) ↔
    accepts definitions v c = false := by
  rw [← Bool.not_eq_true, ← violations_eq_nil_iff, List.eq_nil_iff_forall_not_mem]
  simp

/-- The violations below the value of a key are those of the value. -/
theorem exists_below_key_iff {key : String} {path : Json.Path} (hs : Members.Sorted members)
    (hv : Members.get? members key = some v) (hp : shape.property? key = some s) :
    (∃ e ∈ violations definitions (.object members) (.record shape), .key key :: path <+: e.place) ↔
      ∃ e ∈ violations definitions v (s.resolve definitions), path <+: e.place := by
  rw [violations]
  constructor
  · rintro ⟨e, he, hprefix⟩
    rcases List.mem_append.1 he with he | he
    · obtain ⟨m, hm, s', hp', below, hbelow, rfl⟩ := mem_memberViolations_iff.1 he
      obtain ⟨hkey, hbehind⟩ := List.cons_prefix_cons.1 hprefix
      obtain rfl := Json.Step.key.inj hkey
      obtain rfl : s = s' := Option.some.inj (hp.symm.trans hp')
      obtain rfl : v = m.2 :=
        Option.some.inj (hv.symm.trans ((Members.get?_eq_some_iff hs).2 hm))
      exact ⟨below, hbelow, hbehind⟩
    · rw [place_of_mem_here he] at hprefix
      exact absurd hprefix (by simp)
  · rintro ⟨below, hbelow, hprefix⟩
    refine ⟨_, List.mem_append_left _ (mem_memberViolations_iff.2
      ⟨(key, v), Members.mem_of_get? hv, s, hp, below, hbelow, rfl⟩), ?_⟩
    exact List.cons_prefix_cons.2 ⟨rfl, hprefix⟩

/-- The violations below an item are those of the item. -/
theorem exists_below_index_iff {least i : Nat} {path : Json.Path} (hi : items[i]? = some v) :
    (∃ e ∈ violations definitions (.array items) (.list least s), .index i :: path <+: e.place) ↔
      ∃ e ∈ violations definitions v (s.resolve definitions), path <+: e.place := by
  rw [violations]
  constructor
  · rintro ⟨e, he, hprefix⟩
    rcases List.mem_append.1 he with he | he
    · obtain ⟨j, item, hitem, below, hbelow, rfl⟩ := mem_itemViolations_iff.1 he
      obtain ⟨hindex, hbehind⟩ := List.cons_prefix_cons.1 hprefix
      obtain rfl : i = j := (Json.Step.index.inj hindex).trans (Nat.zero_add j)
      obtain rfl : v = item := Option.some.inj (hi.symm.trans hitem)
      exact ⟨below, hbelow, hbehind⟩
    · rw [place_of_mem_here he] at hprefix
      exact absurd hprefix (by simp)
  · rintro ⟨below, hbelow, hprefix⟩
    refine ⟨_, List.mem_append_left _ (mem_itemViolations_iff.2
      ⟨i, v, hi, below, hbelow, rfl⟩), ?_⟩
    exact List.cons_prefix_cons.2 ⟨by rw [Nat.zero_add], hprefix⟩

end Constraint

namespace RulesetSchema

open Constraint

/-- Where a rule stands. -/
def rulePlace (i : Nat) : Json.Path := [.key "rules", .index i]

theorem pointer_rulePlace (i : Nat) : (rulePlace i).pointer = "/rules/" ++ toString i := by
  have hrules : "/" ++ (Json.Step.key "rules").token ++ "/" = "/rules/" := by decide
  rw [rulePlace, Json.pointer_cons, Json.pointer_cons, ← String.append_assoc, ← String.append_assoc,
    hrules]
  exact String.append_empty

/-- There are violations below a rule exactly if the rule is not accepted on its own. -/
theorem exists_below_rulePlace_iff {members : Members} {rules : List Json} {i : Nat} {rule : Json}
    (hs : Members.Sorted members) (hr : Members.get? members "rules" = some (.array rules))
    (hi : rules[i]? = some rule) :
    (∃ e ∈ violations definitions (.object members) root, rulePlace i <+: e.place) ↔
      accepts definitions rule (definitions .rule) = false := by
  have hproperty : shape.property? "rules" = some (.inline (.list 1 (.ref .rule))) := rfl
  rw [root, rulePlace, exists_below_key_iff hs hr hproperty, Schema.resolve,
    exists_below_index_iff hi, Schema.resolve, exists_below_nil_iff]

/-- **A refused document is told all of its broken rules and only places that it has.** Each reported
pointer leads to a part of the document, and some violation lies at a rule or below it exactly if the
rule on its own does not satisfy the schema of rules. -/
theorem report_locates {v : Json} (hv : v.WellFormed) :
    (∀ e, Contract.ruleset.Reports v e → ∃ part, v.atPointer? e.pointer = some part) ∧
    ∀ (members : Members) (rules : List Json), v = .object members →
      members.get? "rules" = some (.array rules) → ∀ (i : Nat) (rule : Json), rules[i]? = some rule →
        ((∃ e, Contract.ruleset.Reports v e ∧
            Json.AtOrBelow ("/rules/" ++ toString i) e.pointer) ↔
          accepts definitions rule (definitions .rule) = false) := by
  have hplace {e : Violation} (he : Contract.ruleset.Reports v e) :
      ∃ part, v.at? e.place = some part :=
    exists_at?_of_mem_violations hv (Contract.reports_iff.1 he)
  constructor
  · intro e he
    obtain ⟨part, hpart⟩ := hplace he
    exact ⟨part, Json.atPointer?_pointer hpart⟩
  · rintro members rules rfl hrules i rule hrule
    have hrulePlace : (Json.object members).at? (rulePlace i) = some rule := by
      simp [rulePlace, Json.at?, Json.step?, hrules, hrule]
    rw [← exists_below_rulePlace_iff hv.sorted hrules hrule]
    refine exists_congr fun e => ?_
    rw [← pointer_rulePlace, Contract.reports_iff]
    refine and_congr_right fun he => ?_
    obtain ⟨part, hpart⟩ := hplace (Contract.reports_iff.2 he)
    exact Json.atOrBelow_pointer_iff hrulePlace hpart

/-- Ten rules that satisfy the schema, and one without an id whose condition lacks its child. -/
def elevenRules : List Json :=
  List.replicate 10
    (Rule.toJson ⟨"confident", "1.0.0", .fieldExists, .fieldExists "problem_state.confidence", .allow⟩)
    ++ [.object [("expr", .object [("op", .string "NOT")]), ("verdict", .null)]]

/-- A document with these rules and a key that rulesets do not have. -/
def elevenRulesMembers : Members := [("priority", .integer 1), ("rules", .array elevenRules)]

theorem wellFormed_elevenRules : (Json.object elevenRulesMembers).WellFormed := by
  have hitems : ∀ rule ∈ elevenRules, rule.WellFormed := by
    intro rule hrule
    rcases List.mem_append.1 hrule with hrule | hrule
    · rw [List.eq_of_mem_replicate hrule]
      exact Rule.wellFormed_toJson _
    · rw [List.mem_singleton.1 hrule, Json.WellFormed]
      exact ⟨Members.sorted_of_keys ["expr", "verdict"] rfl (by decide), by
        simp [Json.WellFormedMembers, Json.WellFormed, Members.Sorted], trivial, trivial⟩
  rw [Json.WellFormed]
  refine ⟨Members.sorted_of_keys ["priority", "rules"] rfl (by decide), ?_, ?_, trivial⟩
  · rw [Json.WellFormed]
    decide
  · rw [Json.WellFormed, Json.wellFormedItems_iff]
    exact hitems

/-- What is found in the eleventh rule does not lie below the second one. -/
theorem report_locates_elevenRules :
    (Json.object elevenRulesMembers).WellFormed ∧
      elevenRulesMembers.get? "rules" = some (.array elevenRules) ∧
      (∃ e, Contract.ruleset.Reports (.object elevenRulesMembers) e ∧
        Json.AtOrBelow "/rules/10" e.pointer) ∧
      ¬ ∃ e, Contract.ruleset.Reports (.object elevenRulesMembers) e ∧
        Json.AtOrBelow "/rules/1" e.pointer := by
  have hv := wellFormed_elevenRules
  have hrules : elevenRulesMembers.get? "rules" = some (.array elevenRules) := rfl
  have hrule := (report_locates hv).2 elevenRulesMembers elevenRules rfl hrules
  refine ⟨hv, hrules, (hrule 10 _ rfl).2 (by decide), fun hreported => ?_⟩
  exact absurd ((hrule 1 _ rfl).1 hreported) (by decide)

end RulesetSchema

end ControlPlane
