import ControlPlane.Proofs.Admission
import ControlPlane.Proofs.Decision

/-!
# What conditions need to hold

A node that reads a path asks for a value of the path, and for a value of a certain kind. Where there
is none it is false. So more evidence can only make a condition hold that was false, and none at all
makes every condition false, provided that nothing in it is negated and no windows are compared:
negation turns an absence into a match, and windows of which nothing is known agree. An `all` without
conditions below it would hold without evidence too, but admission lets none pass.

## Main definitions

* `Snapshot.Within` : another snapshot has every value of a snapshot.
* `Condition.accepts` : the values with which a node that reads a path holds.
* `Condition.NegationFree`, `Condition.Populated` : no part is a negation or compares windows, no part
  has an empty list of conditions below it.
* `Condition.Affirmative` : both, along the tree.

## Main statements

* `Condition.holds_eq_any_accepts` : a node that reads a path looks at the value there.
* `Condition.affirmative_iff`, `Condition.WellFormed.populated` : which conditions are affirmative.
* `Condition.Affirmative.holds_mono`, `Condition.Affirmative.holds_empty` : more evidence, and none.
* `Ruleset.needs_evidence` : without evidence nothing is decided.
-/

namespace ControlPlane

namespace Snapshot

/-- Wherever a snapshot has a value, the other one has the same value. -/
def Within (s t : Snapshot) : Prop :=
  ∀ path value, s.get? path = some value → t.get? path = some value

/-- Of snapshots in the order of their paths, one is within another if its entries are among the
entries of the other. -/
theorem within_iff_subset {s t : Snapshot} (hs : Members.Sorted s.entries)
    (ht : Members.Sorted t.entries) : s.Within t ↔ s.entries ⊆ t.entries := by
  constructor
  · rintro h ⟨path, value⟩ he
    exact (Members.get?_eq_some_iff ht).1 (h path value ((Members.get?_eq_some_iff hs).2 he))
  · intro h path value hvalue
    exact (Members.get?_eq_some_iff ht).2 (h ((Members.get?_eq_some_iff hs).1 hvalue))

end Snapshot

namespace Condition

variable {s t : Snapshot} {c part : Condition} {path : String}

/-! ### One node -/

/-- Whether a node that reads a path holds with a value there. -/
def accepts : Condition → Json → Bool
  | .fieldEq _ text, v => v.text? == some text
  | .fieldIn _ texts, v => v.text?.any fun t => texts.contains t
  | .fieldExists _, v => !v.isNull
  | .setIntersects _ texts, v =>
    ((v.items?.getD []).filterMap Json.text?).any fun t => texts.contains t
  | .windowMatch, _ | .all _, _ | .any _, _ | .not _, _ => false

/-- **A node that reads a path holds if the path has a value, and one that the node accepts.** -/
theorem holds_eq_any_accepts (h : c.path? = some path) : holds s c = (s.get? path).any c.accepts := by
  cases c with
  | fieldEq p text | fieldIn p texts | fieldExists p | setIntersects p texts =>
    obtain rfl : p = path := Option.some.inj h
    cases hv : s.get? p <;> simp [holds, accepts, Snapshot.text?, Snapshot.texts, hv]
  | windowMatch | all children | any children | not child => exact absurd h (by simp [path?])

theorem allHold_eq_all (children : List Condition) :
    allHold s children = children.all (holds s) := by
  induction children with
  | nil => rfl
  | cons c rest ih => rw [allHold, ih, List.all_cons]

theorem anyHolds_eq_any (children : List Condition) :
    anyHolds s children = children.any (holds s) := by
  induction children with
  | nil => rfl
  | cons c rest ih => rw [anyHolds, ih, List.any_cons]

/-! ### The fragment -/

/-- No part of a condition is a negation, and none compares windows. -/
def NegationFree (c : Condition) : Prop :=
  ∀ part, IsPart part c → part ≠ .windowMatch ∧ ∀ child, part ≠ .not child

/-- Under each `all` and each `any` in a condition there are conditions. -/
def Populated (c : Condition) : Prop :=
  ∀ part, IsPart part c → part ≠ .all [] ∧ part ≠ .any []

/-- A condition is made from nodes that read paths, by `all` and `any` over one condition or more. -/
inductive Affirmative : Condition → Prop
  | fieldEq (path value : String) : Affirmative (.fieldEq path value)
  | fieldIn (path : String) (values : List String) : Affirmative (.fieldIn path values)
  | fieldExists (path : String) : Affirmative (.fieldExists path)
  | setIntersects (path : String) (values : List String) : Affirmative (.setIntersects path values)
  | all {children : List Condition} (hne : children ≠ []) (h : ∀ c ∈ children, Affirmative c) :
      Affirmative (.all children)
  | any {children : List Condition} (hne : children ≠ []) (h : ∀ c ∈ children, Affirmative c) :
      Affirmative (.any children)

theorem Affirmative.of_isPart (h : c.Affirmative) (hpart : IsPart part c) : part.Affirmative := by
  induction hpart with
  | whole => exact h
  | all hc _ ih =>
    cases h with
    | all _ hchildren => exact ih (hchildren _ hc)
  | any hc _ ih =>
    cases h with
    | any _ hchildren => exact ih (hchildren _ hc)
  | not _ _ => cases h

theorem Affirmative.negationFree (h : c.Affirmative) : c.NegationFree := by
  intro part hpart
  have hp := h.of_isPart hpart
  constructor
  · rintro rfl
    cases hp
  · rintro child rfl
    cases hp

theorem Affirmative.populated (h : c.Affirmative) : c.Populated := by
  intro part hpart
  have hp := h.of_isPart hpart
  constructor
  · rintro rfl
    cases hp with
    | all hne => exact hne rfl
  · rintro rfl
    cases hp with
    | any hne => exact hne rfl

theorem affirmative_of_isPart : (c : Condition) → c.NegationFree → c.Populated → c.Affirmative
  | .fieldEq path value, _, _ => .fieldEq path value
  | .fieldIn path values, _, _ => .fieldIn path values
  | .fieldExists path, _, _ => .fieldExists path
  | .setIntersects path values, _, _ => .setIntersects path values
  | .windowMatch, hnegation, _ => absurd rfl (hnegation _ .whole).1
  | .not child, hnegation, _ => absurd rfl ((hnegation _ .whole).2 child)
  | .all children, hnegation, hpopulated =>
    .all (fun hnil => (hpopulated _ .whole).1 (hnil ▸ rfl)) fun c hc =>
      affirmative_of_isPart c (fun part hpart => hnegation part (.all hc hpart))
        fun part hpart => hpopulated part (.all hc hpart)
  | .any children, hnegation, hpopulated =>
    .any (fun hnil => (hpopulated _ .whole).2 (hnil ▸ rfl)) fun c hc =>
      affirmative_of_isPart c (fun part hpart => hnegation part (.any hc hpart))
        fun part hpart => hpopulated part (.any hc hpart)

/-- **The affirmative conditions are those in which nothing is negated, no windows are compared and
no list of conditions is empty.** -/
theorem affirmative_iff : c.Affirmative ↔ c.NegationFree ∧ c.Populated := by
  constructor
  · intro h
    exact ⟨h.negationFree, h.populated⟩
  · rintro ⟨hnegation, hpopulated⟩
    exact affirmative_of_isPart c hnegation hpopulated

/-- **What documents insist on includes that no list of conditions is empty.** -/
theorem WellFormed.populated (h : c.WellFormed) : c.Populated := by
  intro part hpart
  have hwf := h.of_isPart hpart
  constructor
  · rintro rfl
    cases hwf with
    | all hne => exact hne rfl
  · rintro rfl
    cases hwf with
    | any hne => exact hne rfl

/-! ### More evidence, and none -/

/-- **More evidence makes no affirmative condition false.** -/
theorem Affirmative.holds_mono (hc : c.Affirmative) (hst : s.Within t) (h : holds s c = true) :
    holds t c = true := by
  induction hc with
  | fieldEq path | fieldIn path | fieldExists path | setIntersects path =>
    rw [holds_eq_any_accepts rfl, Option.any_eq_true] at h ⊢
    obtain ⟨v, hv, haccepts⟩ := h
    exact ⟨v, hst _ v hv, haccepts⟩
  | all _ _ ih =>
    rw [holds, allHold_eq_all, List.all_eq_true] at h ⊢
    intro c hc
    exact ih c hc (h c hc)
  | any _ _ ih =>
    rw [holds, anyHolds_eq_any, List.any_eq_true] at h ⊢
    obtain ⟨c, hc, hholds⟩ := h
    exact ⟨c, hc, ih c hc hholds⟩

/-- **Without evidence every affirmative condition is false.** -/
theorem Affirmative.holds_empty (hc : c.Affirmative) : holds .empty c = false := by
  induction hc with
  | fieldEq path | fieldIn path | fieldExists path | setIntersects path =>
    rw [holds_eq_any_accepts rfl]
    rfl
  | all hne _ ih =>
    -- one false condition is enough, and there is one
    obtain ⟨c, hc⟩ := List.exists_mem_of_ne_nil _ hne
    rw [holds, allHold_eq_all, List.all_eq_false]
    exact ⟨c, hc, by simp [ih c hc]⟩
  | any _ _ ih =>
    rw [holds, anyHolds_eq_any, List.any_eq_false]
    intro c hc
    simp [ih c hc]

-- What the fragment leaves out can hold without evidence.
example : holds .empty (.not (.fieldExists "problem_state.confidence")) = true ∧
    holds .empty .windowMatch = true ∧ holds .empty (.all []) = true := by
  decide

end Condition

namespace Ruleset

variable {r : Ruleset}

/-- Without evidence, affirmative rules leave the verdict open, whichever rule would win. -/
theorem decision_empty (h : ∀ rule ∈ r.rules, rule.condition.Affirmative) :
    r.decision .empty = ⟨.undetermined, none⟩ := by
  have hnone : r.decidingRule? .empty = none := by
    rw [Option.eq_none_iff_forall_ne_some]
    intro rule hrule
    obtain ⟨hmem, hholds⟩ := decidingRule?_holds hrule
    have hfalse := (h rule hmem).holds_empty
    exact absurd (hholds.symm.trans hfalse) (by decide)
  rw [decision, hnone, defaultVerdict]

/-- **Missing evidence creates no match.** If nothing in a condition is negated, no windows are
compared and no list of conditions is empty, then it holds on every snapshot that has more entries
than one on which it holds, and not on the snapshot of nothing. Admission sees to it that the lists
are not empty: an admitted ruleset in which nothing is negated and no windows are compared leaves the
verdict open where there is no evidence. -/
theorem needs_evidence :
    (∀ c : Condition, c.NegationFree → c.Populated →
      (∀ s t : Snapshot, s.Within t → c.holds s = true → c.holds t = true) ∧
        c.holds .empty = false) ∧
      ∀ (constitution : Constitution) (v : Json) (r : Ruleset), v.WellFormed →
        Admission.ofJson constitution v = .ok r →
        (∀ rule ∈ r.rules, rule.condition.NegationFree) →
          r.decision .empty = ⟨.undetermined, none⟩ := by
  constructor
  · intro c hnegation hpopulated
    have hc := Condition.affirmative_iff.2 ⟨hnegation, hpopulated⟩
    exact ⟨fun s t hst h => hc.holds_mono hst h, hc.holds_empty⟩
  · intro constitution v r hv hadmitted hnegation
    obtain ⟨-, hr, -⟩ := Admission.eq_toJson_of_ofJson hv hadmitted
    refine decision_empty fun rule hrule => ?_
    have hwf := (hr.rules_wellFormed rule hrule).condition_wellFormed
    exact Condition.affirmative_iff.2 ⟨hnegation rule hrule, hwf.populated⟩

/-- A drought or a frost is reported with a confidence, or there is a survey. -/
def hazardCondition : Condition :=
  .any [.all [.fieldExists "problem_state.confidence",
      .fieldIn "problem_state.problem_type" ["DROUGHT", "FROST"]],
    .setIntersects "permission_set.supporting_evidence_refs[]" ["survey"]]

/-- A ruleset that lets a place be entered once there is a confidence, but not in a hazard. -/
def hazardRuleset : Ruleset :=
  { Admission.entryRuleset with
    strategy := .denyOverrides
    inputsUsed := ["problem_state.confidence", "problem_state.problem_type",
      "permission_set.supporting_evidence_refs[]"]
    allowedTemplates := [.fieldExists, .logicalOrNot]
    rules :=
      [⟨"confident", "1.0.0", .fieldExists, .fieldExists "problem_state.confidence", .allow⟩,
        ⟨"hazard", "1.0.0", .logicalOrNot, hazardCondition, .deny⟩] }

/-- A drought is reported with a confidence. -/
def droughtSnapshot : Snapshot where
  entries := [("problem_state.confidence", .string "HIGH"),
    ("problem_state.problem_type", .string "DROUGHT")]

/-- A drought is reported with a confidence, and the scale is known. -/
def scaledSnapshot : Snapshot where
  entries := ("permission_set.scale", .string "FIELD") :: droughtSnapshot.entries

theorem affirmative_hazardCondition : hazardCondition.Affirmative := by
  refine .any (by simp) ?_
  simp only [List.forall_mem_cons]
  refine ⟨.all (by simp) ?_, .setIntersects _ _, by simp⟩
  simp only [List.forall_mem_cons]
  exact ⟨.fieldExists _, .fieldIn _ _, by simp⟩

theorem hazardRuleset_wellFormed : hazardRuleset.WellFormed :=
  { Admission.entryRuleset_wellFormed with
    inputsUsed_ne_nil := by decide
    inputsUsed_ne := by decide
    allowedTemplates_ne_nil := by decide
    rules_ne_nil := by simp [hazardRuleset]
    rules_wellFormed := by
      have hversion : IsSemver "1.0.0" := isVersion_iff.1 (by decide)
      simp only [hazardRuleset, List.forall_mem_cons]
      refine ⟨⟨by decide, hversion, .fieldExists (by decide)⟩, ⟨by decide, hversion, ?_⟩, by simp⟩
      refine .any (by simp) ?_
      simp only [List.forall_mem_cons]
      refine ⟨.all (by simp) ?_, .setIntersects (by decide) (by decide) (by decide), by simp⟩
      simp only [List.forall_mem_cons]
      exact ⟨.fieldExists (by decide), .fieldIn (by decide) (by decide) (by decide), by simp⟩ }

theorem hazardRuleset_withinReach : Admission.WithinReach .standard hazardRuleset :=
  { Admission.entryRuleset_withinReach with
    inputsUsed_mem := by
      have hstandard : ∀ path ∈ hazardRuleset.inputsUsed, path ∈ Constitution.standardInputPaths := by
        decide
      exact fun path hpath => KeySet.mem_ofList.2 (hstandard path hpath)
    template_mem := by decide
    template_eq := by decide
    path_mem := by
      have hdeclared : ∀ rule ∈ hazardRuleset.rules, ∀ path ∈ rule.condition.paths,
          path ∈ hazardRuleset.inputsUsed := by decide
      exact fun rule hrule => Condition.forall_mem_paths_iff.1 (hdeclared rule hrule) }

theorem needs_evidence_hazardRuleset :
    hazardCondition.NegationFree ∧ hazardCondition.Populated ∧
      droughtSnapshot.Within scaledSnapshot ∧ hazardCondition.holds droughtSnapshot = true ∧
      hazardCondition.holds scaledSnapshot = true ∧ hazardCondition.holds .empty = false ∧
      hazardRuleset.toJson.WellFormed ∧
      Admission.ofJson .standard hazardRuleset.toJson = .ok hazardRuleset ∧
      (∀ rule ∈ hazardRuleset.rules, rule.condition.NegationFree) ∧
      hazardRuleset.decision .empty = ⟨.undetermined, none⟩ := by
  obtain ⟨hnegation, hpopulated⟩ := Condition.affirmative_iff.1 affirmative_hazardCondition
  obtain ⟨hmono, hempty⟩ := needs_evidence.1 hazardCondition hnegation hpopulated
  have hsorted : Members.Sorted scaledSnapshot.entries := by
    unfold Members.Sorted
    decide
  have hwithin : droughtSnapshot.Within scaledSnapshot :=
    (Snapshot.within_iff_subset hsorted.of_cons hsorted).2 (List.subset_cons_self _ _)
  have hdrought : hazardCondition.holds droughtSnapshot = true := by decide
  have hadmitted : Admission.ofJson .standard hazardRuleset.toJson = .ok hazardRuleset :=
    Admission.ofJson_toJson hazardRuleset_wellFormed hazardRuleset_withinReach
  have hrules : ∀ rule ∈ hazardRuleset.rules, rule.condition.NegationFree := by
    simp only [hazardRuleset, List.forall_mem_cons]
    exact ⟨(Condition.Affirmative.fieldExists _).negationFree, hnegation, by simp⟩
  exact ⟨hnegation, hpopulated, hwithin, hdrought, hmono _ _ hwithin hdrought, hempty,
    hazardRuleset.wellFormed_toJson, hadmitted, hrules,
    needs_evidence.2 .standard _ _ hazardRuleset.wellFormed_toJson hadmitted hrules⟩

end Ruleset

end ControlPlane
