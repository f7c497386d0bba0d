import ControlPlane.Proofs.Condition.Document
import ControlPlane.Proofs.Schema.Version
import ControlPlane.Proofs.Wire.Reading
import ControlPlane.Ruleset.Document

/-!
# Rulesets in documents

The schema of rulesets accepts exactly the document forms of well-formed rulesets, and the reader
gives back the ruleset that was written.

## Main definitions

* `Rule.WellFormed`, `Ruleset.WellFormed` : no identifier and no list is empty, versions have their
  form.

## Main statements

* `RulesetSchema.accepts_root_iff` : what the schema accepts.
* `Ruleset.ofJson_toJson` : what was written is read back.
-/

namespace ControlPlane

open Constraint Wire

/-- What documents insist on in a rule. -/
structure Rule.WellFormed (r : Rule) : Prop where
  id_ne : r.id ≠ ""
  version_isSemver : IsSemver r.version
  condition_wellFormed : r.condition.WellFormed

/-- What documents insist on in a ruleset. -/
structure Ruleset.WellFormed (r : Ruleset) : Prop where
  schemaVersion_isSemver : IsSemver r.schemaVersion
  id_ne : r.id ≠ ""
  actionCode_ne : r.actionCode ≠ ""
  inputsUsed_ne_nil : r.inputsUsed ≠ []
  inputsUsed_ne : ∀ path ∈ r.inputsUsed, path ≠ ""
  allowedTemplates_ne_nil : r.allowedTemplates ≠ []
  rules_ne_nil : r.rules ≠ []
  rules_wellFormed : ∀ rule ∈ r.rules, rule.WellFormed

/-! ### Variants -/

theorem TemplateId.mem_all (t : TemplateId) : t ∈ TemplateId.all := by
  cases t <;> decide

theorem Verdict.mem_all (d : Verdict) : d ∈ Verdict.all := by
  cases d <;> decide

theorem CombineStrategy.mem_all (s : CombineStrategy) : s ∈ CombineStrategy.all := by
  cases s <;> decide

theorem TemplateId.ofJson_text (t : TemplateId) : TemplateId.ofJson (.string t.text) = .ok t :=
  OfJson.choice_string (by cases t <;> decide)

theorem Verdict.ofJson_text (d : Verdict) : Verdict.ofJson (.string d.text) = .ok d :=
  OfJson.choice_string (by cases d <;> decide)

theorem CombineStrategy.ofJson_text (s : CombineStrategy) :
    CombineStrategy.ofJson (.string s.text) = .ok s :=
  OfJson.choice_string (by cases s <;> decide)

/-! ### Document forms are well formed -/

theorem Rule.wellFormed_toJson (r : Rule) : r.toJson.WellFormed := by
  rw [toJson, Json.WellFormed]
  exact ⟨Members.sorted_of_keys ["expr", "rule_id", "rule_version", "template_id", "verdict"] rfl
    (by decide), r.condition.wellFormed_toJson, trivial, trivial, trivial, trivial, trivial⟩

theorem Ruleset.wellFormed_toJson (r : Ruleset) : r.toJson.WellFormed := by
  have hids : (Json.array (r.allowedTemplates.map fun t => .string t.text)).WellFormed :=
    Json.wellFormed_array_map fun _ _ => trivial
  have hrules : (Json.array (r.rules.map Rule.toJson)).WellFormed :=
    Json.wellFormed_array_map fun rule _ => rule.wellFormed_toJson
  rw [toJson, Json.WellFormed]
  exact ⟨Members.sorted_of_keys ["action_code", "allowed_template_ids", "combine_strategy",
    "default_verdict", "inputs_used", "rules", "ruleset_id", "schema_version", "type"] rfl
    (by decide), trivial, hids, trivial, trivial, Condition.wellFormed_textList r.inputsUsed,
    hrules, trivial, trivial, trivial, trivial⟩

/-! ### The schema -/

namespace RulesetSchema

variable {v : Json} {members : Members} {key : String}

theorem accepts_semver_iff :
    accepts definitions v (definitions .semver) = true ↔ ∃ s, v = .string s ∧ IsSemver s := by
  simp only [definitions, accepts_version_iff, isVersion_iff]

theorem accepts_templateId_iff :
    accepts definitions v (definitions .templateId) = true ↔ ∃ t : TemplateId, v = .string t.text :=
  accepts_variants_iff TemplateId.mem_all

theorem accepts_verdict_iff :
    accepts definitions v (definitions .verdict) = true ↔ ∃ d : Verdict, v = .string d.text := by
  show accepts definitions v (.enumeration (Verdict.all.map Verdict.text)) = true ↔ _
  exact accepts_variants_iff Verdict.mem_all

theorem accepts_strategy_iff :
    accepts definitions v (.enumeration ["DENY_OVERRIDES", "FIRST_MATCH"]) = true ↔
      ∃ s : CombineStrategy, v = .string s.text := by
  show accepts definitions v (.enumeration (CombineStrategy.all.map CombineStrategy.text)) = true ↔ _
  exact accepts_variants_iff CombineStrategy.mem_all

theorem accepts_templateExpr_iff (hv : v.WellFormed) :
    accepts definitions v (definitions .templateExpr) = true ↔
      ∃ c : Condition, v = c.toJson ∧ c.WellFormed :=
  ⟨exists_toJson_of_accepts v hv, by rintro ⟨c, rfl, hc⟩; exact accepts_toJson hc⟩

/-! ### Properties of rules and rulesets -/

theorem holds_semver_iff :
    Holds definitions members (key, .ref .semver) ↔
      ∃ s, Members.get? members key = some (.string s) ∧ IsSemver s :=
  holds_iff fun _ _ => accepts_semver_iff

theorem holds_variant_iff {α : Type} {text : α → String} {s : Schema Name}
    (h : ∀ v, accepts definitions v (s.resolve definitions) = true ↔ ∃ a, v = .string (text a)) :
    Holds definitions members (key, s) ↔
      ∃ a, Members.get? members key = some (.string (text a)) := by
  have hform : Holds definitions members (key, s) ↔
      ∃ a, Members.get? members key = some (.string (text a)) ∧ True :=
    holds_iff fun v _ => (h v).trans (by simp)
  simpa using hform

theorem holds_templateId_iff :
    Holds definitions members (key, .ref .templateId) ↔
      ∃ t : TemplateId, Members.get? members key = some (.string t.text) :=
  holds_variant_iff fun _ => accepts_templateId_iff

theorem holds_verdict_iff :
    Holds definitions members (key, .ref .verdict) ↔
      ∃ d : Verdict, Members.get? members key = some (.string d.text) :=
  holds_variant_iff fun _ => accepts_verdict_iff

theorem holds_templateExpr_iff (hv : (Json.object members).WellFormed) :
    Holds definitions members (key, .ref .templateExpr) ↔
      ∃ c : Condition, Members.get? members key = some c.toJson ∧ c.WellFormed :=
  holds_iff fun _ h => accepts_templateExpr_iff (hv.of_get? h)

/-- The schema of rules accepts the document forms of well-formed rules. -/
theorem accepts_rule_iff (hv : v.WellFormed) :
    accepts definitions v (definitions .rule) = true ↔ ∃ r : Rule, v = r.toJson ∧ r.WellFormed := by
  constructor
  · intro ha
    obtain ⟨members, rfl⟩ := exists_object_of_accepts ha
    obtain ⟨hk, ha⟩ := (accepts_exactly_iff hv.sorted (by decide)).1 ha
    simp only [List.forall_mem_cons, holds_nonEmptyString_iff, holds_semver_iff,
      holds_templateId_iff, holds_verdict_iff, holds_templateExpr_iff hv] at ha
    obtain ⟨⟨id, hid, hine⟩, ⟨version, hver, hsem⟩, ⟨t, ht⟩, ⟨c, hc, hcw⟩, ⟨d, hd⟩, -⟩ := ha
    exact ⟨⟨id, version, t, c, d⟩, congrArg Json.object <| eq_of_known_keys
      ["expr", "rule_id", "rule_version", "template_id", "verdict"] hv.sorted hk rfl (by decide)
      (by decide) (by simp [hid, hver, ht, hc, hd]), ⟨hine, hsem, hcw⟩⟩
  · rintro ⟨r, rfl, hr⟩
    refine (accepts_exactly_iff hv.sorted (by decide)).2 ⟨by simp, ?_⟩
    simp only [List.forall_mem_cons]
    exact ⟨holds_nonEmptyString_iff.2 ⟨_, rfl, hr.id_ne⟩,
      holds_semver_iff.2 ⟨_, rfl, hr.version_isSemver⟩, holds_templateId_iff.2 ⟨_, rfl⟩,
      (holds_templateExpr_iff hv).2 ⟨_, rfl, hr.condition_wellFormed⟩,
      holds_verdict_iff.2 ⟨_, rfl⟩, by simp⟩

theorem holds_strategy_iff :
    Holds definitions members (key, .inline (.enumeration ["DENY_OVERRIDES", "FIRST_MATCH"])) ↔
      ∃ s : CombineStrategy, Members.get? members key = some (.string s.text) :=
  holds_variant_iff fun _ => accepts_strategy_iff

theorem holds_texts_iff :
    Holds definitions members (key, .inline (.list 1 (.ref .nonEmptyString))) ↔
      ∃ texts : List String, Members.get? members key = some (.array (texts.map .string)) ∧
        texts ≠ [] ∧ ∀ s ∈ texts, s ≠ "" :=
  holds_iff fun _ _ => accepts_nonEmptyList_iff fun _ _ _ _ => accepts_nonEmptyString_iff

theorem holds_templateIds_iff :
    Holds definitions members (key, .inline (.list 1 (.ref .templateId))) ↔
      ∃ ids : List TemplateId,
        Members.get? members key = some (.array (ids.map fun t => .string t.text)) ∧ ids ≠ [] := by
  have h : Holds definitions members (key, .inline (.list 1 (.ref .templateId))) ↔
      ∃ ids : List TemplateId,
        Members.get? members key = some (.array (ids.map fun t => .string t.text)) ∧ ids ≠ [] ∧
          ∀ t ∈ ids, True :=
    holds_iff fun _ _ => accepts_nonEmptyList_iff fun _ _ _ _ =>
      accepts_templateId_iff.trans (by simp)
  simpa using h

theorem holds_rules_iff (hv : (Json.object members).WellFormed) :
    Holds definitions members (key, .inline (.list 1 (.ref .rule))) ↔
      ∃ rules : List Rule, Members.get? members key = some (.array (rules.map Rule.toJson)) ∧
        rules ≠ [] ∧ ∀ r ∈ rules, r.WellFormed :=
  holds_iff fun _ h => accepts_nonEmptyList_iff fun _ hi _ hx =>
    accepts_rule_iff ((hi ▸ hv.of_get? h : (Json.array _).WellFormed).of_mem hx)

/-- **The schema of rulesets accepts the document forms of well-formed rulesets, and nothing else.** -/
theorem accepts_root_iff (hv : v.WellFormed) :
    accepts definitions v root = true ↔ ∃ r : Ruleset, v = r.toJson ∧ r.WellFormed := by
  constructor
  · intro ha
    obtain ⟨members, rfl⟩ := exists_object_of_accepts ha
    obtain ⟨hk, ha⟩ := (accepts_exactly_iff hv.sorted (by decide)).1 ha
    simp only [List.forall_mem_cons, holds_constant_iff, holds_semver_iff, holds_nonEmptyString_iff,
      holds_strategy_iff, holds_texts_iff, holds_templateIds_iff, holds_rules_iff hv] at ha
    obtain ⟨htype, ⟨version, hver, hsem⟩, ⟨id, hid, hidne⟩, ⟨action, ha, hane⟩, ⟨s, hs⟩, hdef,
      ⟨inputs, hin, hinn, hine⟩, ⟨ids, hids, hidsn⟩, ⟨rules, hr, hrn, hrw⟩, -⟩ := ha
    exact ⟨⟨version, id, action, s, inputs, ids, rules⟩, congrArg Json.object <| eq_of_known_keys
      ["action_code", "allowed_template_ids", "combine_strategy", "default_verdict", "inputs_used",
        "rules", "ruleset_id", "schema_version", "type"] hv.sorted hk rfl (by decide) (by decide)
      (by simp [htype, hver, hid, ha, hs, hdef, hin, hids, hr, Ruleset.documentType,
        Ruleset.defaultVerdict, Verdict.text]), ⟨hsem, hidne, hane, hinn, hine, hidsn, hrn, hrw⟩⟩
  · rintro ⟨r, rfl, hr⟩
    refine (accepts_exactly_iff hv.sorted (by decide)).2 ⟨by simp, ?_⟩
    simp only [List.forall_mem_cons]
    exact ⟨holds_constant_iff.2 rfl, holds_semver_iff.2 ⟨_, rfl, hr.schemaVersion_isSemver⟩,
      holds_nonEmptyString_iff.2 ⟨_, rfl, hr.id_ne⟩,
      holds_nonEmptyString_iff.2 ⟨_, rfl, hr.actionCode_ne⟩, holds_strategy_iff.2 ⟨_, rfl⟩,
      holds_constant_iff.2 rfl, holds_texts_iff.2 ⟨_, rfl, hr.inputsUsed_ne_nil, hr.inputsUsed_ne⟩,
      holds_templateIds_iff.2 ⟨_, rfl, hr.allowedTemplates_ne_nil⟩,
      (holds_rules_iff hv).2 ⟨_, rfl, hr.rules_ne_nil, hr.rules_wellFormed⟩, by simp⟩

end RulesetSchema

/-! ### The reader -/

theorem Condition.read_toJson {c : Condition} (h : c.WellFormed) : Condition.read c.toJson = .ok c :=
  mapError_eq_ok.2 (ofJson_toJson h)

theorem Rule.ofJson_toJson {r : Rule} (h : r.WellFormed) : Rule.ofJson r.toJson = .ok r := by
  apply OfJson.record_object_eq_ok
  · rw [OfJson.takeMembers_cons rfl
        (map_eq_ok.2 ⟨_, Condition.read_toJson h.condition_wellFormed, rfl⟩),
      OfJson.takeMembers_cons rfl rfl, OfJson.takeMembers_cons rfl rfl,
      OfJson.takeMembers_cons rfl (map_eq_ok.2 ⟨_, TemplateId.ofJson_text _, rfl⟩),
      OfJson.takeMembers_cons rfl (map_eq_ok.2 ⟨_, Verdict.ofJson_text _, rfl⟩)]
    rfl
  · rfl

/-- **Reading the document form of a well-formed ruleset gives the ruleset back.** -/
theorem Ruleset.ofJson_toJson {r : Ruleset} (h : r.WellFormed) : Ruleset.ofJson r.toJson = .ok r := by
  apply OfJson.record_object_eq_ok
  · rw [OfJson.takeMembers_cons rfl rfl,
      OfJson.takeMembers_cons rfl (map_eq_ok.2
        ⟨_, OfJson.items_map fun t _ => TemplateId.ofJson_text t, rfl⟩),
      OfJson.takeMembers_cons rfl (map_eq_ok.2 ⟨_, CombineStrategy.ofJson_text _, rfl⟩),
      OfJson.takeMembers_cons rfl rfl,
      OfJson.takeMembers_cons rfl (map_eq_ok.2 ⟨_, OfJson.items_texts _, rfl⟩),
      OfJson.takeMembers_cons rfl (map_eq_ok.2
        ⟨_, OfJson.items_map fun rule hr => Rule.ofJson_toJson (h.rules_wellFormed rule hr), rfl⟩),
      OfJson.takeMembers_cons rfl rfl, OfJson.takeMembers_cons rfl rfl,
      OfJson.takeMembers_cons rfl rfl]
    rfl
  · rfl

end ControlPlane
