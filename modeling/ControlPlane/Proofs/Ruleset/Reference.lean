import ControlPlane.Proofs.Ruleset.Declared

/-!
# Which rules an anchor points to

The anchor of a rule is a text made of the ids of the ruleset and of the rule and of the version. Ids
may hold any characters, the separators included, but versions hold digits and points only. So within
one ruleset an anchor tells the id and the version of the rule, and it points to one rule as long as
no other rule has both. Admission does not look for rules that do: it asks of ids only that they are
not empty.

## Main definitions

* `RuleReference.WellFormed` : no part of a reference is empty, and its version has its form.
* `Ruleset.anchorAt?` : the anchor of the rule at a position.
* `Ruleset.decidingPosition?` : the position of the rule that decides.
* `Ruleset.rename` : a ruleset whose rules get other ids.

## Main statements

* `RuleReference.anchor_eq_anchor_iff` : what anchors tell.
* `Ruleset.anchor_of_decision` : where the anchor of a decision stands.
* `Admission.ofJson_rename` : admission does not compare ids of rules.
-/

namespace ControlPlane

/-- Two texts with a separator in them are equal when they are split alike, or when what stands in
front of the separator in one goes on, behind another separator, in the other. -/
theorem append_cons_eq_append_cons_iff {α : Type} {a b x y : List α} {separator : α} :
    a ++ separator :: x = b ++ separator :: y ↔
      a = b ∧ x = y ∨
        (∃ between, b = a ++ separator :: between ∧ x = between ++ separator :: y) ∨
        ∃ between, a = b ++ separator :: between ∧ y = between ++ separator :: x := by
  rw [List.append_eq_append_iff]
  constructor
  · rintro (⟨_ | ⟨first, between⟩, hb, hx⟩ | ⟨_ | ⟨first, between⟩, ha, hy⟩)
    · exact .inl ⟨by simpa using hb.symm, by simpa using hx⟩
    · obtain ⟨rfl, rfl⟩ := List.cons.inj hx
      exact .inr (.inl ⟨between, hb, rfl⟩)
    · exact .inl ⟨by simpa using ha, by simpa using hy.symm⟩
    · obtain ⟨rfl, rfl⟩ := List.cons.inj hy
      exact .inr (.inr ⟨between, ha, rfl⟩)
  · rintro (⟨rfl, rfl⟩ | ⟨between, rfl, rfl⟩ | ⟨between, rfl, rfl⟩)
    · exact .inl ⟨[], by simp, rfl⟩
    · exact .inl ⟨separator :: between, rfl, rfl⟩
    · exact .inr ⟨separator :: between, rfl, rfl⟩

/-- A text is split in one way at its last separator. -/
theorem append_cons_inj_of_notMem_right {α : Type} {a b x y : List α} {separator : α}
    (hx : separator ∉ x) (hy : separator ∉ y) :
    a ++ separator :: x = b ++ separator :: y ↔ a = b ∧ x = y := by
  rw [append_cons_eq_append_cons_iff]
  refine ⟨?_, .inl⟩
  rintro (h | ⟨between, -, rfl⟩ | ⟨between, -, rfl⟩)
  · exact h
  · exact absurd (List.mem_append_right _ List.mem_cons_self) hx
  · exact absurd (List.mem_append_right _ List.mem_cons_self) hy

namespace RuleReference

variable {p q : RuleReference}

/-- No part of a reference is empty, and its version has the form of versions. -/
structure WellFormed (p : RuleReference) : Prop where
  ruleset_ne : p.ruleset ≠ ""
  rule_ne : p.rule ≠ ""
  version_isSemver : IsSemver p.version

namespace WellFormed

theorem notMem_version (hp : p.WellFormed) : '@' ∉ p.version.toList := fun h =>
  (hp.version_isSemver.eq_point_or_isDigit h).elim (by decide) (by decide)

theorem anchor_eq (hp : p.WellFormed) : p.anchor = anchorSpace ++ p.text := by
  rw [anchor, if_neg]
  simp [hp.ruleset_ne, hp.rule_ne, hp.version_isSemver.ne_empty]

end WellFormed

/-- **An anchor tells the version, and of the ids what they make together.** -/
theorem anchor_eq_anchor_iff (hp : p.WellFormed) (hq : q.WellFormed) :
    p.anchor = q.anchor ↔
      p.ruleset ++ "/" ++ p.rule = q.ruleset ++ "/" ++ q.rule ∧ p.version = q.version := by
  rw [hp.anchor_eq, hq.anchor_eq, String.append_right_inj, text, text, ← String.toList_inj]
  have hsplit (p : RuleReference) :
      (p.ruleset ++ "/" ++ p.rule ++ "@" ++ p.version).toList =
        (p.ruleset ++ "/" ++ p.rule).toList ++ '@' :: p.version.toList := by
    simp [String.toList_append]
  rw [hsplit, hsplit, append_cons_inj_of_notMem_right hp.notMem_version hq.notMem_version,
    String.toList_inj, String.toList_inj]

end RuleReference

namespace Ruleset

variable {c : Constitution} {v : Json} {r : Ruleset} {s : Snapshot} {rule other : Rule}
  {ref : RuleReference}

theorem WellFormed.reference (hr : r.WellFormed) (hrule : rule ∈ r.rules) :
    (r.reference rule).WellFormed where
  ruleset_ne := hr.id_ne
  rule_ne := (hr.rules_wellFormed rule hrule).id_ne
  version_isSemver := (hr.rules_wellFormed rule hrule).version_isSemver

/-- **Within a ruleset, an anchor tells the id and the version of the rule.** -/
theorem WellFormed.anchor_eq_anchor_iff (hr : r.WellFormed) (hrule : rule ∈ r.rules)
    (hother : other ∈ r.rules) :
    (r.reference other).anchor = (r.reference rule).anchor ↔
      other.id = rule.id ∧ other.version = rule.version := by
  rw [RuleReference.anchor_eq_anchor_iff (hr.reference hother) (hr.reference hrule)]
  simp [Ruleset.reference]

/-! ### Other ids -/

/-- A ruleset stays well-formed under another id and with other rules that are. -/
theorem WellFormed.map_rules {f : Rule → Rule} {id : String} (hr : r.WellFormed) (hid : id ≠ "")
    (hf : ∀ rule ∈ r.rules, (f rule).WellFormed) :
    WellFormed { r with id := id, rules := r.rules.map f } :=
  { hr with
    id_ne := hid
    rules_ne_nil := by simpa using hr.rules_ne_nil
    rules_wellFormed := List.forall_mem_map.2 hf }

/-- The ruleset whose rules get other ids. -/
def rename (f : String → String) (r : Ruleset) : Ruleset :=
  { r with rules := r.rules.map fun rule => { rule with id := f rule.id } }

theorem WellFormed.rename {f : String → String} (hr : r.WellFormed) (hf : ∀ id, f id ≠ "") :
    (r.rename f).WellFormed :=
  hr.map_rules hr.id_ne fun rule hrule => { hr.rules_wellFormed rule hrule with id_ne := hf rule.id }

end Ruleset

namespace Admission

variable {c : Constitution} {v : Json} {r : Ruleset}

/-- Reach has to do with the shapes and conditions of rules, and not with what the ruleset and its
rules are called. -/
theorem WithinReach.map_rules {f : Rule → Rule} {id : String} (h : WithinReach c r)
    (htemplate : ∀ rule, (f rule).template = rule.template)
    (hcondition : ∀ rule, (f rule).condition = rule.condition) :
    WithinReach c { r with id := id, rules := r.rules.map f } :=
  { h with
    template_mem := by simpa only [List.forall_mem_map, htemplate] using h.template_mem
    template_eq := by simpa only [List.forall_mem_map, htemplate, hcondition] using h.template_eq
    path_mem := by simpa only [List.forall_mem_map, hcondition] using h.path_mem }

theorem WithinReach.rename {f : String → String} (h : WithinReach c r) : WithinReach c (r.rename f) :=
  h.map_rules (fun _ => rfl) fun _ => rfl

/-- **Admission does not compare the ids of rules.** A ruleset that is admitted stays admitted when its
rules get other ids, even if all get one id. -/
theorem ofJson_rename {f : String → String} (hv : v.WellFormed) (h : ofJson c v = .ok r)
    (hf : ∀ id, f id ≠ "") : ofJson c (r.rename f).toJson = .ok (r.rename f) := by
  obtain ⟨-, hr, hreach⟩ := eq_toJson_of_ofJson hv h
  exact ofJson_toJson (hr.rename hf) hreach.rename

end Admission

namespace Ruleset

variable {c : Constitution} {v : Json} {r : Ruleset} {s : Snapshot} {rule : Rule}
  {ref : RuleReference}

/-! ### The anchor of a decision -/

/-- The anchor of the rule at a position. -/
def anchorAt? (r : Ruleset) (i : Nat) : Option String :=
  r.rules[i]?.map fun rule => (r.reference rule).anchor

/-- The position of the rule that decides: under the first match the first position of a rule that
fires; where denial wins the first position of a rule that fires and denies, or else of one that fires
and allows. -/
def decidingPosition? (r : Ruleset) (s : Snapshot) : Option Nat :=
  match r.strategy with
  | .firstMatch => r.rules.findIdx? fun rule => rule.condition.holds s
  | .denyOverrides =>
    (r.rules.findIdx? (votes s .deny)).or (r.rules.findIdx? (votes s .allow))

/-- The rule that decides stands at the deciding position. -/
theorem decidingRule?_eq_bind :
    r.decidingRule? s = (r.decidingPosition? s).bind fun i => r.rules[i]? := by
  rw [decidingRule?, decidingPosition?]
  cases r.strategy with
  | firstMatch =>
    simp only
    rw [firstMatch?_eq_find?, List.find?_eq_bind_findIdx?_getElem?]
  | denyOverrides =>
    simp only
    rw [denyOverrides?_eq_find?, Option.none_or, List.find?_eq_bind_findIdx?_getElem?,
      List.find?_eq_bind_findIdx?_getElem?]
    cases h : r.rules.findIdx? (votes s .deny) with
    | none => rfl
    | some i =>
      obtain ⟨hi, -⟩ := List.findIdx?_eq_some_iff_getElem.1 h
      simp [hi]

theorem exists_of_decision (h : (r.decision s).rule = some ref) :
    ∃ i rule, r.decidingPosition? s = some i ∧ r.rules[i]? = some rule ∧
      r.decision s = ⟨rule.verdict, some (r.reference rule)⟩ ∧ ref = r.reference rule := by
  cases hdeciding : r.decidingRule? s with
  | none => simp [decision, hdeciding] at h
  | some rule =>
    have hdecision : r.decision s = ⟨rule.verdict, some (r.reference rule)⟩ := by
      rw [decision, hdeciding]
    rw [decidingRule?_eq_bind, Option.bind_eq_some_iff] at hdeciding
    obtain ⟨i, hi, hrule⟩ := hdeciding
    rw [hdecision] at h
    exact ⟨i, rule, hi, hrule, hdecision, (Option.some.inj h).symm⟩

/-- **The anchor of a decision points to the rule that decided, and to those that repeat its id and its
version.** It points to one rule exactly when no other rule of the ruleset has both. -/
theorem anchor_of_decision (hv : v.WellFormed) (hadmitted : Admission.ofJson c v = .ok r)
    (h : (r.decision s).rule = some ref) :
    ∃ i rule, r.decidingPosition? s = some i ∧ r.rules[i]? = some rule ∧
      r.decision s = ⟨rule.verdict, some (r.reference rule)⟩ ∧
      r.anchorAt? i = some ref.anchor ∧
      (∀ j, r.anchorAt? j = some ref.anchor ↔ ∃ other, r.rules[j]? = some other ∧
        other.id = rule.id ∧ other.version = rule.version) ∧
      ((∃! j, r.anchorAt? j = some ref.anchor) ↔ ∀ j other, r.rules[j]? = some other →
        other.id = rule.id → other.version = rule.version → j = i) := by
  obtain ⟨-, hr, -⟩ := Admission.eq_toJson_of_ofJson hv hadmitted
  obtain ⟨i, rule, hi, hrule, hdecision, rfl⟩ := exists_of_decision h
  have hpoints : ∀ j, r.anchorAt? j = some (r.reference rule).anchor ↔
      ∃ other, r.rules[j]? = some other ∧ other.id = rule.id ∧ other.version = rule.version := by
    intro j
    rw [anchorAt?, Option.map_eq_some_iff]
    refine exists_congr fun other => and_congr_right fun hother => ?_
    exact hr.anchor_eq_anchor_iff (List.mem_of_getElem? hrule) (List.mem_of_getElem? hother)
  have hself := (hpoints i).2 ⟨rule, hrule, rfl, rfl⟩
  refine ⟨i, rule, hi, hrule, hdecision, hself, hpoints, fun hunique j other hother hid hversion => ?_,
    fun hunique => ⟨i, hself, fun j hj => ?_⟩⟩
  · exact hunique.unique ((hpoints j).2 ⟨other, hother, hid, hversion⟩) hself
  · obtain ⟨other, hother, hid, hversion⟩ := (hpoints j).1 hj
    exact hunique j other hother hid hversion

theorem anchor_of_decision_seasonRuleset :
    seasonRuleset.toJson.WellFormed ∧
      Admission.ofJson .standard seasonRuleset.toJson = .ok seasonRuleset ∧
      (seasonRuleset.decision (seasonSnapshot (.string "PLOT"))).rule =
        some ⟨"entry", "confident", "1.0.0"⟩ ∧
      ∃! j, seasonRuleset.anchorAt? j = some "repo-const-v0:entry/confident@1.0.0" := by
  have hdecision : (seasonRuleset.decision (seasonSnapshot (.string "PLOT"))).rule =
      some ⟨"entry", "confident", "1.0.0"⟩ := by decide +kernel
  have hposition : seasonRuleset.decidingPosition? (seasonSnapshot (.string "PLOT")) = some 0 := by
    decide +kernel
  have hanchor : (⟨"entry", "confident", "1.0.0"⟩ : RuleReference).anchor =
      "repo-const-v0:entry/confident@1.0.0" := by decide
  obtain ⟨i, rule, hi, hrule, -, -, -, hunique⟩ :=
    anchor_of_decision seasonRuleset.wellFormed_toJson ofJson_seasonRuleset hdecision
  obtain rfl : 0 = i := Option.some.inj (hposition.symm.trans hi)
  obtain rfl : _ = rule := Option.some.inj hrule
  refine ⟨seasonRuleset.wellFormed_toJson, ofJson_seasonRuleset, hdecision,
    hanchor ▸ hunique.2 fun j other hother hid _ => ?_⟩
  match j, hother with
  | 0, _ => rfl
  | 1, hother =>
    obtain rfl : _ = other := Option.some.inj hother
    exact absurd hid (by decide)

/-- The ruleset on entering in season, with one id for the rule that allows and the rule that denies.
-/
def twinRuleset : Ruleset := seasonRuleset.rename fun _ => "season"

theorem not_existsUnique_anchorAt?_twinRuleset :
    twinRuleset.toJson.WellFormed ∧
      Admission.ofJson .standard twinRuleset.toJson = .ok twinRuleset ∧
      twinRuleset.decision (seasonSnapshot (.string "PLOT")) =
        ⟨.allow, some ⟨"entry", "season", "1.0.0"⟩⟩ ∧
      (twinRuleset.rules.map Rule.verdict) = [.allow, .deny] ∧
      ¬ ∃! j, twinRuleset.anchorAt? j =
        some (⟨"entry", "season", "1.0.0"⟩ : RuleReference).anchor := by
  have hadmitted : Admission.ofJson .standard twinRuleset.toJson = .ok twinRuleset :=
    Admission.ofJson_rename seasonRuleset.wellFormed_toJson ofJson_seasonRuleset fun _ => by decide
  refine ⟨twinRuleset.wellFormed_toJson, hadmitted, by decide +kernel, rfl, fun hunique => ?_⟩
  have hequal : (0 : Nat) = 1 := hunique.unique rfl rfl
  exact absurd hequal (by decide)

end Ruleset

end ControlPlane
