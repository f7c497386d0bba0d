import ControlPlane.Proofs.Admission
import ControlPlane.Proofs.Text.Order

/-!
# Which fault a refusal names

A ruleset can fail at several gates at once, and several of its rules at one gate. The refusal names
one fault: the gates come first, each over all rules before the next one is asked, and then the place
in the list. The paths of one condition form a set, so that of its undeclared paths the least is named,
wherever in the tree it is read.

## Main definitions

* `Admission.IsFirst` : an item is the first of a list that offends.
* `Admission.StraysTo`, `Admission.StraysFirstTo` : a rule reads a path that is undeclared, and of these
  paths the least.
* `Admission.FirstFault` : the fault of a ruleset that is named.

## Main statements

* `Admission.undeclaredPath?_eq_some_iff` : of the undeclared paths of a rule the least is found.
* `Admission.checkReach_eq_error_iff` : the gates behind the first name the first fault.
* `Admission.names_first_fault` : so does admission, once there is a ruleset.
-/

namespace ControlPlane

namespace Admission

/-- An item of a list offends and none in front of it does. -/
def IsFirst {α : Type} (Offends : α → Prop) (l : List α) (a : α) : Prop :=
  Offends a ∧ ∃ before after, l = before ++ a :: after ∧ ∀ b ∈ before, ¬ Offends b

/-- A rule reads, at some depth of its condition, a path that its ruleset does not declare. -/
def StraysTo (r : Ruleset) (rule : Rule) (path : String) : Prop :=
  (∃ part : Condition, part.IsPart rule.condition ∧ part.path? = some path) ∧ path ∉ r.inputsUsed

/-- Of the paths that a rule reads without declaration this is the one whose octets come first. -/
structure StraysFirstTo (r : Ruleset) (rule : Rule) (path : String) : Prop where
  strays : StraysTo r rule path
  le_of_straysTo : ∀ other, StraysTo r rule other → Bytes.ofText path ≤ Bytes.ofText other

/-- **The fault that is named.** Each case asks that nothing offends at the gates before its own, by
any rule, and picks the first offender at its own. -/
inductive FirstFault (c : Constitution) (r : Ruleset) : Refusal → Prop
  /-- The action does not exist. -/
  | actionCode (h : r.actionCode ∉ c.actionCodes) : FirstFault c r (.unknownActionCode r.actionCode)
  /-- A declared input is no input path. -/
  | inputPath {path : String} (hcode : r.actionCode ∈ c.actionCodes)
      (h : IsFirst (fun path => path ∉ c.inputPaths) r.inputsUsed path) :
      FirstFault c r (.disallowedInputPath path)
  /-- The declared shape of a rule is not allowed. -/
  | templateAllowed {rule : Rule} (hcode : r.actionCode ∈ c.actionCodes)
      (hinputs : ∀ path ∈ r.inputsUsed, path ∈ c.inputPaths)
      (h : IsFirst (fun rule : Rule => rule.template ∉ r.allowedTemplates) r.rules rule) :
      FirstFault c r (.templateNotAllowed rule.id rule.template)
  /-- The declared shape of a rule is not that of its condition. -/
  | templateFidelity {rule : Rule} (hcode : r.actionCode ∈ c.actionCodes)
      (hinputs : ∀ path ∈ r.inputsUsed, path ∈ c.inputPaths)
      (hallowed : ∀ rule ∈ r.rules, rule.template ∈ r.allowedTemplates)
      (h : IsFirst (fun rule : Rule => rule.template ≠ rule.condition.template) r.rules rule) :
      FirstFault c r (.templateMismatch rule.id rule.template rule.condition.template)
  /-- A rule reads what is not declared. -/
  | closure {rule : Rule} {path : String} (hcode : r.actionCode ∈ c.actionCodes)
      (hinputs : ∀ path ∈ r.inputsUsed, path ∈ c.inputPaths)
      (hallowed : ∀ rule ∈ r.rules, rule.template ∈ r.allowedTemplates)
      (hfaithful : ∀ rule ∈ r.rules, rule.template = rule.condition.template)
      (h : IsFirst (fun rule => ∃ path, StraysTo r rule path) r.rules rule)
      (hpath : StraysFirstTo r rule path) :
      FirstFault c r (.undeclaredFieldPath rule.id path)

variable {c : Constitution} {r : Ruleset} {e : Refusal}

/-! ### The gates -/

theorem find?_eq_some_iff_isFirst {α : Type} {Offends : α → Prop} [DecidablePred Offends]
    {l : List α} {a : α} : (l.find? fun a => decide (Offends a)) = some a ↔ IsFirst Offends l a := by
  simp [List.find?_eq_some_iff_append, IsFirst]

theorem refuseFirst_eq_error_iff {α : Type} {Offends : α → Prop} [DecidablePred Offends]
    {refuse : α → Refusal} {l : List α} :
    refuseFirst Offends refuse l = .error e ↔ ∃ a, IsFirst Offends l a ∧ refuse a = e := by
  simp only [← find?_eq_some_iff_isFirst, refuseFirst]
  cases l.find? fun a => decide (Offends a) with
  | some a => simp
  | none => simp

theorem checkActionCode_eq_error_iff :
    checkActionCode c r = .error e ↔
      r.actionCode ∉ c.actionCodes ∧ .unknownActionCode r.actionCode = e := by
  rw [checkActionCode, mapError_eq_error, Constitution.checkActionCode]
  split <;> simp_all [ofConstitution]

theorem undeclaredPath?_eq_none_iff_not_straysTo {rule : Rule} :
    undeclaredPath? r rule = none ↔ ¬ ∃ path, StraysTo r rule path := by
  rw [undeclaredPath?_eq_none_iff]
  constructor
  · rintro h ⟨path, ⟨part, hpart, hpath⟩, hundeclared⟩
    exact hundeclared (h part hpart path hpath)
  · intro h part hpart path hpath
    by_contra hundeclared
    exact h ⟨path, ⟨part, hpart, hpath⟩, hundeclared⟩

/-- The search goes through the paths in increasing order, which is the order of their octets. -/
theorem undeclaredPath?_eq_some_iff {rule : Rule} {path : String} :
    undeclaredPath? r rule = some path ↔ StraysFirstTo r rule path := by
  have hstrays (p : String) :
      StraysTo r rule p ↔ p ∈ rule.condition.fieldPaths ∧ p ∉ r.declaredInputs := by
    rw [StraysTo, Condition.mem_fieldPaths_iff, Ruleset.declaredInputs, KeySet.mem_ofList]
  rw [undeclaredPath?, KeySet.find?_names_eq_some_iff, ← hstrays]
  constructor
  · rintro ⟨h, hleast⟩
    refine ⟨h, fun other hother => Bytes.ofText_le_iff.2 ?_⟩
    obtain ⟨hread, hundeclared⟩ := (hstrays other).1 hother
    exact hleast other hread hundeclared
  · rintro ⟨h, hleast⟩
    exact ⟨h, fun other hread hundeclared =>
      Bytes.ofText_le_iff.1 (hleast other ((hstrays other).2 ⟨hread, hundeclared⟩))⟩

theorem checkClosure_eq_error_iff :
    checkClosure r = .error e ↔
      ∃ rule path, IsFirst (fun rule => ∃ path, StraysTo r rule path) r.rules rule ∧
        StraysFirstTo r rule path ∧ .undeclaredFieldPath rule.id path = e := by
  have hfound (rule : Rule) (path : String) :
      (r.rules.findSome? fun rule => (undeclaredPath? r rule).map fun path => (rule, path)) =
          some (rule, path) ↔
        IsFirst (fun rule => ∃ path, StraysTo r rule path) r.rules rule ∧
          StraysFirstTo r rule path := by
    simp only [List.findSome?_eq_some_iff, Option.map_eq_some_iff, Option.map_eq_none_iff,
      Prod.mk.injEq, undeclaredPath?_eq_some_iff, undeclaredPath?_eq_none_iff_not_straysTo]
    constructor
    · rintro ⟨before, _, after, hrules, ⟨_, hpath, rfl, rfl⟩, hbefore⟩
      exact ⟨⟨⟨_, hpath.strays⟩, before, after, hrules, hbefore⟩, hpath⟩
    · rintro ⟨⟨-, before, after, hrules, hbefore⟩, hpath⟩
      exact ⟨before, rule, after, hrules, ⟨path, hpath, rfl, rfl⟩, hbefore⟩
  simp only [← and_assoc, ← hfound]
  rw [checkClosure]
  cases r.rules.findSome? fun rule => (undeclaredPath? r rule).map fun path => (rule, path) with
  | some found =>
    obtain ⟨rule, path⟩ := found
    simp
  | none => simp

/-- **The gates behind the first name the first fault.** -/
theorem checkReach_eq_error_iff : checkReach c r = .error e ↔ FirstFault c r e := by
  simp only [checkReach, bind_unit_eq_error, checkActionCode_eq_ok_iff, checkActionCode_eq_error_iff,
    checkInputPaths_eq_refuseFirst, checkTemplatesAllowed_eq_refuseFirst,
    checkTemplateFidelity_eq_refuseFirst, refuseFirst_eq_ok_iff, refuseFirst_eq_error_iff, ne_eq,
    not_not, checkClosure_eq_error_iff]
  constructor
  · rintro (⟨h, rfl⟩ | ⟨hcode, ⟨path, h, rfl⟩ | ⟨hinputs, ⟨rule, h, rfl⟩ | ⟨hallowed,
      ⟨rule, h, rfl⟩ | ⟨hfaithful, rule, path, h, hpath, rfl⟩⟩⟩⟩)
    · exact .actionCode h
    · exact .inputPath hcode h
    · exact .templateAllowed hcode hinputs h
    · exact .templateFidelity hcode hinputs hallowed h
    · exact .closure hcode hinputs hallowed hfaithful h hpath
  · intro h
    cases h with
    | actionCode h => exact .inl ⟨h, rfl⟩
    | inputPath hcode h => exact .inr ⟨hcode, .inl ⟨_, h, rfl⟩⟩
    | templateAllowed hcode hinputs h => exact .inr ⟨hcode, .inr ⟨hinputs, .inl ⟨_, h, rfl⟩⟩⟩
    | templateFidelity hcode hinputs hallowed h =>
      exact .inr ⟨hcode, .inr ⟨hinputs, .inr ⟨hallowed, .inl ⟨_, h, rfl⟩⟩⟩⟩
    | closure hcode hinputs hallowed hfaithful h hpath =>
      exact .inr ⟨hcode, .inr ⟨hinputs, .inr ⟨hallowed, .inr ⟨hfaithful, _, _, h, hpath, rfl⟩⟩⟩⟩

/-! ### Admission -/

/-- The first gate refuses with a structural fault. -/
theorem exists_structural_of_structureOf {v : Json} (h : structureOf v = .error e) :
    ∃ fault, e = .structural fault := by
  simp only [structureOf, bind_unit_eq_error, mapError_eq_error] at h
  rcases h with ⟨refusal, -, rfl⟩ | ⟨-, mismatch, -, rfl⟩
  · exact ⟨.schema refusal, rfl⟩
  · exact ⟨.mismatch mismatch, rfl⟩

/-- **Admission names the first fault.** A document that passes the first gate is refused with the first
fault of its ruleset under the constitution, and it is refused if there is one. A document that does not
is refused with the same structural fault under every constitution. -/
theorem names_first_fault (v : Json) :
    (∀ r, structureOf v = .ok r → ∀ c e, ofJson c v = .error e ↔ FirstFault c r e) ∧
      ∀ e, structureOf v = .error e →
        (∃ fault, e = .structural fault) ∧ ∀ c, ofJson c v = .error e := by
  refine ⟨fun r hr c e => ?_, fun e he => ?_⟩
  · rw [ofJson, hr, ← checkReach_eq_error_iff]
    refine bind_unit_eq_error.trans (or_iff_left ?_)
    rintro ⟨-, hok⟩
    cases hok
  · exact ⟨exists_structural_of_structureOf he, fun c => bind_eq_error.2 (.inl he)⟩

/-- A rule that reads the name of a place and then its crop, which is the lesser path. -/
def plantedRule : Rule := ⟨"planted", "1.0.0", .logicalAnd,
  .all [.fieldExists "plot.name", .not (.fieldExists "plot.crop")], .allow⟩

/-- Both rules stray, the second to a path that is less than those of the first. -/
def strayingRuleset (allowed : List TemplateId) : Ruleset := { entryRuleset with
  allowedTemplates := allowed
  rules := [plantedRule, ⟨"aired", "1.0.0", .fieldExists, .fieldExists "plot.air", .deny⟩] }

theorem strayingRuleset_wellFormed {allowed : List TemplateId} (h : allowed ≠ []) :
    (strayingRuleset allowed).WellFormed := { entryRuleset_wellFormed with
  allowedTemplates_ne_nil := h
  rules_ne_nil := by simp [strayingRuleset]
  rules_wellFormed := by
    have hversion : IsSemver "1.0.0" := isVersion_iff.1 (by decide)
    simp only [strayingRuleset, List.forall_mem_cons]
    refine ⟨⟨by decide, hversion, .all (by simp) ?_⟩,
      ⟨by decide, hversion, .fieldExists (by decide)⟩, by simp⟩
    simp only [List.forall_mem_cons]
    exact ⟨.fieldExists (by decide), .not (.fieldExists (by decide)), by simp⟩ }

theorem plantedRule_straysFirstTo (allowed : List TemplateId) :
    StraysFirstTo (strayingRuleset allowed) plantedRule "plot.crop" := by
  have hundeclared : "plot.crop" ∉ (strayingRuleset allowed).inputsUsed := by
    simp [strayingRuleset, entryRuleset]
  refine ⟨⟨⟨_, .all (List.mem_cons_of_mem _ List.mem_cons_self) (.not .whole), rfl⟩,
    hundeclared⟩, ?_⟩
  rintro other ⟨⟨part, hpart, hpath⟩, -⟩
  rw [Bytes.ofText_le_iff]
  obtain _ | ⟨hc, hpart⟩ := hpart
  · cases hpath
  · simp only [List.mem_cons, List.not_mem_nil, or_false] at hc
    rcases hc with rfl | rfl
    · cases hpart
      cases hpath
      decide
    · obtain _ | _ | _ | ⟨⟨⟩⟩ := hpart
      · cases hpath
      · cases hpath
        decide

theorem names_first_fault_strayingRuleset :
    ofJson .standard (strayingRuleset [.logicalAnd, .fieldExists]).toJson =
        .error (.undeclaredFieldPath "planted" "plot.crop") ∧
      ofJson .standard (strayingRuleset [.logicalAnd]).toJson =
        .error (.templateNotAllowed "aired" .fieldExists) ∧
      ∃ fault, ∀ c, ofJson c .null = .error (.structural fault) := by
  have hstructure {allowed : List TemplateId} (h : allowed ≠ []) :=
    (structureOf_eq_ok_iff (strayingRuleset allowed).wellFormed_toJson).2
      ⟨rfl, strayingRuleset_wellFormed h⟩
  have hcode (allowed : List TemplateId) :
      (strayingRuleset allowed).actionCode ∈ Constitution.standard.actionCodes :=
    entryRuleset_withinReach.actionCode_mem
  have hinputs (allowed : List TemplateId) :
      ∀ path ∈ (strayingRuleset allowed).inputsUsed, path ∈ Constitution.standard.inputPaths :=
    entryRuleset_withinReach.inputsUsed_mem
  refine ⟨?_, ?_, ?_⟩
  · refine ((names_first_fault _).1 _ (hstructure (by decide)) _ _).2 ?_
    have hpath := plantedRule_straysFirstTo [.logicalAnd, .fieldExists]
    exact .closure (hcode _) (hinputs _) (by simp [strayingRuleset, plantedRule])
      (by simp [strayingRuleset, plantedRule, Condition.template])
      ⟨⟨_, hpath.strays⟩, [], _, rfl, by simp⟩ hpath
  · refine ((names_first_fault _).1 _ (hstructure (by decide)) _ _).2 ?_
    exact .templateAllowed (hcode _) (hinputs _)
      ⟨by decide, [plantedRule], [], rfl, by simp [strayingRuleset, plantedRule]⟩
  · cases h : structureOf .null with
    | ok r =>
      obtain ⟨hnull, -⟩ := (structureOf_eq_ok_iff (v := .null) trivial).1 h
      cases hnull
    | error e =>
      obtain ⟨⟨fault, rfl⟩, hrefused⟩ := (names_first_fault .null).2 e h
      exact ⟨fault, hrefused⟩

end Admission

end ControlPlane
