import ControlPlane.Admission
import ControlPlane.Proofs.Json.Reader
import ControlPlane.Proofs.Ruleset.Document

/-!
# What is admitted

Admission decides, in a fixed order of gates, what can be said without any order: a document is
admitted exactly when it is the document form of a well-formed ruleset that stays within its
constitution and within what it declares itself.

## Main definitions

* `Admission.WithinReach` : what the gates behind the first ask for.
* `Admission.refuseFirst` : the gates that go through a list, as one.

## Main statements

* `Admission.structureOf_eq_ok_iff` : what passes the first gate.
* `Admission.checkReach_eq_ok_iff` : what passes the gates behind the first.
* `Admission.ofJson_eq_ok_iff`, `Admission.ofBytes_eq_ok_iff` : what is admitted.
-/

namespace ControlPlane

namespace Admission

/-- A ruleset judges an action that exists and declares inputs that rules may read; its rules have
allowed shapes, the shapes of their conditions, and read at any depth only what is declared. -/
structure WithinReach (c : Constitution) (r : Ruleset) : Prop where
  actionCode_mem : r.actionCode ∈ c.actionCodes
  inputsUsed_mem : ∀ path ∈ r.inputsUsed, path ∈ c.inputPaths
  template_mem : ∀ rule ∈ r.rules, rule.template ∈ r.allowedTemplates
  template_eq : ∀ rule ∈ r.rules, rule.template = rule.condition.template
  path_mem : ∀ rule ∈ r.rules, ∀ part : Condition, part.IsPart rule.condition →
    ∀ path, part.path? = some path → path ∈ r.inputsUsed

variable {c : Constitution} {r : Ruleset}

/-! ### The gates -/

/-- A gate that goes through a list refuses the first item that offends. -/
def refuseFirst {α : Type} (Offends : α → Prop) [DecidablePred Offends] (refuse : α → Refusal)
    (l : List α) : Except Refusal Unit :=
  match l.find? fun a => decide (Offends a) with
  | some a => .error (refuse a)
  | none => .ok ()

theorem refuseFirst_eq_ok_iff {α : Type} {Offends : α → Prop} [DecidablePred Offends]
    {refuse : α → Refusal} {l : List α} :
    refuseFirst Offends refuse l = .ok () ↔ ∀ a ∈ l, ¬ Offends a := by
  rw [refuseFirst]
  cases h : l.find? fun a => decide (Offends a) with
  | some a =>
    have ha : Offends a := by simpa using List.find?_some h
    exact iff_of_false (by simp) fun hn => hn a (List.mem_of_find?_eq_some h) ha
  | none => simpa using h

theorem checkInputPaths_eq_refuseFirst : checkInputPaths c r =
    refuseFirst (fun path => path ∉ c.inputPaths) .disallowedInputPath r.inputsUsed := by
  rw [checkInputPaths, refuseFirst]
  cases r.inputsUsed.find? fun path => decide (path ∉ c.inputPaths) <;> rfl

theorem checkTemplatesAllowed_eq_refuseFirst : checkTemplatesAllowed r =
    refuseFirst (fun rule : Rule => rule.template ∉ r.allowedTemplates)
      (fun rule => .templateNotAllowed rule.id rule.template) r.rules := by
  rw [checkTemplatesAllowed, refuseFirst]
  cases r.rules.find? fun rule => decide (rule.template ∉ r.allowedTemplates) <;> rfl

theorem checkTemplateFidelity_eq_refuseFirst : checkTemplateFidelity r =
    refuseFirst (fun rule : Rule => rule.template ≠ rule.condition.template)
      (fun rule => .templateMismatch rule.id rule.template rule.condition.template) r.rules := by
  rw [checkTemplateFidelity, refuseFirst]
  cases r.rules.find? fun rule => decide (rule.template ≠ rule.condition.template) <;> rfl

theorem checkActionCode_eq_ok_iff : checkActionCode c r = .ok () ↔ r.actionCode ∈ c.actionCodes := by
  rw [checkActionCode, mapError_eq_ok, Constitution.checkActionCode]
  split <;> simp_all

theorem checkInputPaths_eq_ok_iff :
    checkInputPaths c r = .ok () ↔ ∀ path ∈ r.inputsUsed, path ∈ c.inputPaths := by
  simp only [checkInputPaths_eq_refuseFirst, refuseFirst_eq_ok_iff, not_not]

theorem checkTemplatesAllowed_eq_ok_iff :
    checkTemplatesAllowed r = .ok () ↔ ∀ rule ∈ r.rules, rule.template ∈ r.allowedTemplates := by
  simp only [checkTemplatesAllowed_eq_refuseFirst, refuseFirst_eq_ok_iff, not_not]

theorem checkTemplateFidelity_eq_ok_iff :
    checkTemplateFidelity r = .ok () ↔
      ∀ rule ∈ r.rules, rule.template = rule.condition.template := by
  simp only [checkTemplateFidelity_eq_refuseFirst, refuseFirst_eq_ok_iff, ne_eq, not_not]

theorem undeclaredPath?_eq_none_iff {rule : Rule} :
    undeclaredPath? r rule = none ↔ ∀ part : Condition, part.IsPart rule.condition →
      ∀ path, part.path? = some path → path ∈ r.inputsUsed := by
  have hset : undeclaredPath? r rule = none ↔
      ∀ path ∈ rule.condition.fieldPaths, path ∈ r.inputsUsed := by
    simp only [undeclaredPath?, List.find?_eq_none, decide_eq_true_eq, not_not,
      Ruleset.declaredInputs, KeySet.mem_ofList]
    rfl
  rw [hset, ← Condition.forall_mem_paths_iff]
  exact forall_congr' fun path => imp_congr_left KeySet.mem_ofList

theorem checkClosure_eq_ok_iff :
    checkClosure r = .ok () ↔ ∀ rule ∈ r.rules, ∀ part : Condition, part.IsPart rule.condition →
      ∀ path, part.path? = some path → path ∈ r.inputsUsed := by
  simp only [← undeclaredPath?_eq_none_iff]
  rw [checkClosure]
  cases h : r.rules.findSome? fun rule => (undeclaredPath? r rule).map fun path => (rule, path) with
  | some found =>
    obtain ⟨rule, hr, hf⟩ := List.exists_of_findSome?_eq_some h
    refine iff_of_false (by simp) fun hn => ?_
    rw [hn rule hr] at hf
    exact absurd hf (by simp)
  | none => simpa [List.findSome?_eq_none_iff] using h

/-- **The gates behind the first pass the rulesets that stay within reach.** -/
theorem checkReach_eq_ok_iff : checkReach c r = .ok () ↔ WithinReach c r := by
  simp only [checkReach, bind_unit_eq_ok, checkActionCode_eq_ok_iff, checkInputPaths_eq_ok_iff,
    checkTemplatesAllowed_eq_ok_iff, checkTemplateFidelity_eq_ok_iff, checkClosure_eq_ok_iff]
  exact ⟨fun ⟨ha, hi, ht, he, hp⟩ => ⟨ha, hi, ht, he, hp⟩,
    fun ⟨ha, hi, ht, he, hp⟩ => ⟨ha, hi, ht, he, hp⟩⟩

/-- **The first gate passes the document forms of well-formed rulesets.** -/
theorem structureOf_eq_ok_iff {v : Json} (hv : v.WellFormed) :
    structureOf v = .ok r ↔ v = r.toJson ∧ r.WellFormed := by
  simp only [structureOf, bind_unit_eq_ok, mapError_eq_ok, Contract.check_eq_ok_iff,
    RulesetSchema.accepts_root_iff hv]
  constructor
  · rintro ⟨⟨r', rfl, hr'⟩, h⟩
    obtain rfl : r' = r := Except.ok.inj ((Ruleset.ofJson_toJson hr').symm.trans h)
    exact ⟨rfl, hr'⟩
  · rintro ⟨rfl, hr⟩
    exact ⟨⟨r, rfl, hr⟩, Ruleset.ofJson_toJson hr⟩

/-! ### Admission -/

/-- What is admitted stays within reach, whatever document it comes from. -/
theorem withinReach_of_ofJson {v : Json} (h : ofJson c v = .ok r) : WithinReach c r := by
  obtain ⟨r', -, h⟩ := bind_eq_ok.1 h
  obtain ⟨hreach, h⟩ := bind_unit_eq_ok.1 h
  obtain rfl : r' = r := Except.ok.inj h
  exact checkReach_eq_ok_iff.1 hreach

/-- What is admitted is written in the document without loss. -/
theorem eq_toJson_of_ofJson {v : Json} (hv : v.WellFormed) (h : ofJson c v = .ok r) :
    v = r.toJson ∧ r.WellFormed ∧ WithinReach c r := by
  obtain ⟨r', hr', h'⟩ := bind_eq_ok.1 h
  obtain ⟨-, h'⟩ := bind_unit_eq_ok.1 h'
  obtain rfl : r' = r := Except.ok.inj h'
  obtain ⟨hdocument, hr⟩ := (structureOf_eq_ok_iff hv).1 hr'
  exact ⟨hdocument, hr, withinReach_of_ofJson h⟩

/-- The document form of a well-formed ruleset within reach is admitted. -/
theorem ofJson_toJson (hr : r.WellFormed) (hreach : WithinReach c r) : ofJson c r.toJson = .ok r := by
  have hstructure := (structureOf_eq_ok_iff r.wellFormed_toJson).2 ⟨rfl, hr⟩
  rw [ofJson, bind_eq_ok]
  exact ⟨r, hstructure, bind_unit_eq_ok.2 ⟨checkReach_eq_ok_iff.2 hreach, rfl⟩⟩

/-- The bytes of a document are admitted exactly when its value is the document form of a well-formed
ruleset within reach. -/
theorem ofBytes_eq_ok_iff {document : Bytes} :
    ofBytes c document = .ok r ↔
      Json.parse document = .ok r.toJson ∧ r.WellFormed ∧ WithinReach c r := by
  rw [ofBytes, bind_eq_ok]
  constructor
  · rintro ⟨v, hv, h⟩
    have hparse := mapError_eq_ok.1 hv
    obtain ⟨rfl, hr, hreach⟩ := eq_toJson_of_ofJson (Json.wellFormed_of_parse hparse) h
    exact ⟨hparse, hr, hreach⟩
  · rintro ⟨hparse, hr, hreach⟩
    exact ⟨r.toJson, mapError_eq_ok.2 hparse, ofJson_toJson hr hreach⟩

/-- **Exactly the document forms of well-formed rulesets within reach are admitted, and what is
admitted is the ruleset that was written.** -/
theorem ofJson_eq_ok_iff {v : Json} (hv : v.WellFormed) :
    ofJson c v = .ok r ↔ v = r.toJson ∧ r.WellFormed ∧ WithinReach c r := by
  constructor
  · exact eq_toJson_of_ofJson hv
  · rintro ⟨rfl, hr, hreach⟩
    exact ofJson_toJson hr hreach

/-- A ruleset of one rule, which lets a place be entered once there is a confidence. -/
def entryRuleset : Ruleset where
  schemaVersion := "0.1.0"
  id := "entry"
  actionCode := "AO-ENTER"
  strategy := .firstMatch
  inputsUsed := ["problem_state.confidence"]
  allowedTemplates := [.fieldExists]
  rules := [⟨"confident", "1.0.0", .fieldExists, .fieldExists "problem_state.confidence", .allow⟩]

theorem entryRuleset_wellFormed : entryRuleset.WellFormed where
  schemaVersion_isSemver := isVersion_iff.1 (by decide)
  id_ne := by decide
  actionCode_ne := by decide
  inputsUsed_ne_nil := by decide
  inputsUsed_ne := by decide
  allowedTemplates_ne_nil := by decide
  rules_ne_nil := by simp [entryRuleset]
  rules_wellFormed := by
    rintro _ (_ | ⟨_, ⟨⟩⟩)
    exact ⟨by decide, isVersion_iff.1 (by decide), .fieldExists (by decide)⟩

theorem entryRuleset_withinReach : WithinReach .standard entryRuleset where
  actionCode_mem := KeySet.mem_ofList.2 (by decide)
  inputsUsed_mem := by
    rintro _ (_ | ⟨_, ⟨⟩⟩)
    exact KeySet.mem_ofList.2 (by decide)
  template_mem := by
    rintro _ (_ | ⟨_, ⟨⟩⟩)
    decide
  template_eq := by
    rintro _ (_ | ⟨_, ⟨⟩⟩)
    rfl
  path_mem := by
    rintro _ (_ | ⟨_, ⟨⟩⟩) part ⟨⟩ path ⟨⟩
    decide

theorem ofJson_entryRuleset :
    entryRuleset.toJson.WellFormed ∧ ofJson .standard entryRuleset.toJson = .ok entryRuleset :=
  ⟨entryRuleset.wellFormed_toJson, (ofJson_eq_ok_iff entryRuleset.wellFormed_toJson).2
    ⟨rfl, entryRuleset_wellFormed, entryRuleset_withinReach⟩⟩

end Admission

end ControlPlane
