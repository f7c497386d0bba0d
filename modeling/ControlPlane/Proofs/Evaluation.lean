import ControlPlane.Evaluation
import ControlPlane.Proofs.Admission
import ControlPlane.Proofs.ControlVerdict.Contract
import ControlPlane.Proofs.Decision

/-!
# What stands behind a verdict

A verdict that is given out carries the subject, the window and the stamp that came in, and the status
and reference of the file that was consulted. If it is more than undetermined, or cites a rule, there
is an admitted ruleset in that file whose action is on offer, and the cited rule is one of its rules
and holds.

## Main definitions

* `Ruleset.Backs` : a ruleset accounts for a verdict on an input.

## Main statements

* `Ruleset.backs_ofDecision` : a ruleset accounts for what it decides.
* `Evaluation.ofLoaded_eq_ok` : what is given out is what was assembled.
* `Evaluation.backed` : every decision is backed by an admitted ruleset.
-/

namespace ControlPlane

/-- The ruleset accounts for the verdict on what rules can see of the input: its action is on offer,
one of its rules holds, stands for the verdict and is cited, and if denial wins, then an allowance
meets no rule that holds and denies. -/
structure Ruleset.Backs (rs : Ruleset) (s : Snapshot) (v : ControlVerdict) : Prop where
  action_offered : ∃ items,
    s.get? candidateActions = some (.array items) ∧ .string rs.actionCode ∈ items
  rule_holds : ∃ rule ∈ rs.rules, rule.verdict = v.verdict ∧
    v.rule = some (rs.reference rule).anchor ∧ rule.condition.holds s = true
  no_deny : rs.strategy = .denyOverrides → v.verdict = .allow →
    ∀ rule ∈ rs.rules, rule.verdict = .deny → rule.condition.holds s = false

/-- The verdict is about the input, bears the stamp, and tells what became of the file. -/
structure ControlVerdict.Carries (v : ControlVerdict) (loaded : LoadedRuleset) (i : EvaluationInput)
    (stamp : VerdictStamp) : Prop where
  status_eq : v.status = some loaded.status
  ruleset_eq : v.ruleset = some loaded.reference
  subject_eq : v.subject = i.subject
  window_eq : v.window = i.window
  id_eq : v.id = stamp.id
  evaluatedAt_eq : v.evaluatedAt = stamp.time

namespace Ruleset

variable {rs : Ruleset} {s : Snapshot} {stamp : VerdictStamp} {anchors : VerdictAnchors}

/-- Where no rule decides, the verdict is open and cites no rule. -/
theorem decision_of_none (h : rs.decidingRule? s = none) : rs.decision s = ⟨.undetermined, none⟩ := by
  rw [decision, h]
  rfl

theorem decision_of_some {rule : Rule} (h : rs.decidingRule? s = some rule) :
    rs.decision s = ⟨rule.verdict, some (rs.reference rule)⟩ := by
  rw [decision, h]

/-- **A ruleset accounts for every verdict that it decides on an action on offer.** -/
theorem backs_ofDecision (hp : rs.checkPermission s = .ok ()) {v : ControlVerdict}
    (hv : v.verdict = (rs.decision s).verdict)
    (hr : v.rule = (rs.decision s).rule.map RuleReference.anchor)
    (hdecided : v.verdict ≠ .undetermined ∨ v.rule ≠ none) : rs.Backs s v := by
  cases h : rs.decidingRule? s with
  | none =>
    rw [decision_of_none h] at hv hr
    exact absurd hdecided (by simp [hv, hr])
  | some rule =>
    rw [decision_of_some h] at hv hr
    obtain ⟨hmem, hholds⟩ := decidingRule?_holds h
    exact ⟨checkPermission_eq_ok_iff.1 hp, ⟨rule, hmem, hv.symm, hr, hholds⟩,
      fun hs ha _ hd hdeny => not_holds_of_allow hs h (hv.symm.trans ha) hd hdeny⟩

end Ruleset

namespace Evaluation

variable {c : Constitution} {i : EvaluationInput} {stamp : VerdictStamp} {L : LoadedRuleset}
  {v : ControlVerdict} {e : Evaluation} {digest : ContentDigest} {rs : Ruleset}

/-- What is given out is what was assembled, with the status of the file. -/
theorem ofLoaded_eq_ok (h : ofLoaded L i c stamp = .ok e) :
    assemble L i c stamp = .ok e.verdict ∧ e.status = L.status := by
  obtain ⟨v, hv, h⟩ := bind_eq_ok.1 h
  obtain ⟨w, hw, h⟩ := bind_eq_ok.1 h
  obtain rfl := Except.ok.inj h
  obtain rfl : w = v := ControlVerdict.eq_of_revalidate_eq_ok (mapError_eq_ok.1 hw)
  exact ⟨mapError_eq_ok.1 hv, rfl⟩

theorem assemble_applied (h : assemble (.applied digest rs) i c stamp = .ok v) :
    rs.checkPermission (i.snapshot c) = .ok () ∧
      v = { ControlVerdict.ofDecision stamp i.anchors rs.actionCode (rs.decision (i.snapshot c)) with
        ruleset := some digest.reference, status := some .applied } := by
  obtain ⟨judged, hj, h⟩ := bind_eq_ok.1 h
  obtain ⟨d, hd, rfl⟩ := map_eq_ok.1 hj
  obtain ⟨hp, rfl⟩ := Ruleset.evaluate_eq_ok_iff.1 hd
  exact ⟨hp, (Except.ok.inj h).symm⟩

theorem assemble_of_not_applied (hL : ∀ digest rs, L ≠ .applied digest rs)
    (h : assemble L i c stamp = .ok v) :
    v = .withoutRuleset stamp i.anchors i.actionCode L.reference L.status := by
  cases L with
  | applied digest rs => exact absurd rfl (hL digest rs)
  | missing => exact (Except.ok.inj h).symm
  | invalid digest refusal => exact (Except.ok.inj h).symm

theorem carries_of_assemble (h : assemble L i c stamp = .ok v) : v.Carries L i stamp := by
  cases L with
  | applied digest rs =>
    obtain ⟨-, rfl⟩ := assemble_applied h
    exact ⟨rfl, rfl, rfl, rfl, rfl, rfl⟩
  | missing =>
    obtain rfl := assemble_of_not_applied (by simp) h
    exact ⟨rfl, rfl, rfl, rfl, rfl, rfl⟩
  | invalid digest refusal =>
    obtain rfl := assemble_of_not_applied (by simp) h
    exact ⟨rfl, rfl, rfl, rfl, rfl, rfl⟩

/-- A verdict that says something, or cites a rule, comes from a ruleset that accounts for it. -/
theorem exists_backs_of_assemble (h : assemble L i c stamp = .ok v)
    (hdecided : v.verdict ≠ .undetermined ∨ v.rule ≠ none) :
    ∃ digest rs, L = .applied digest rs ∧ rs.Backs (i.snapshot c) v := by
  cases L with
  | applied digest rs =>
    obtain ⟨hp, rfl⟩ := assemble_applied h
    exact ⟨digest, rs, rfl, Ruleset.backs_ofDecision hp rfl rfl hdecided⟩
  | missing =>
    obtain rfl := assemble_of_not_applied (by simp) h
    exact absurd hdecided (by simp [ControlVerdict.withoutRuleset])
  | invalid digest refusal =>
    obtain rfl := assemble_of_not_applied (by simp) h
    exact absurd hdecided (by simp [ControlVerdict.withoutRuleset])

theorem ofBytes_eq_applied {b : Bytes} (h : LoadedRuleset.ofBytes c b = .applied digest rs) :
    digest = .ofBytes b ∧ Admission.ofBytes c b = .ok rs := by
  unfold LoadedRuleset.ofBytes at h
  split at h
  · next hr =>
    obtain ⟨rfl, rfl⟩ := LoadedRuleset.applied.inj h
    exact ⟨rfl, hr⟩
  · exact absurd h (by simp)

/-- **No decision without an admitted ruleset whose action is on offer and one of whose rules holds.**
Of a file and of a file that is missing, what is given out tells the status and the reference, and
carries the subject, the window and the stamp of the input; if it allows, denies or cites a rule, then
the bytes of the file are those of an admitted ruleset that accounts for it. -/
theorem backed {b : Bytes} (hL : L = .ofBytes c b ∨ L = .missing)
    (h : ofLoaded L i c stamp = .ok e) :
    e.status = L.status ∧ e.verdict.Carries L i stamp ∧
      (e.verdict.verdict = .allow ∨ e.verdict.verdict = .deny ∨ e.verdict.rule ≠ none →
        ∃ rs, L = .applied (.ofBytes b) rs ∧ Admission.ofBytes c b = .ok rs ∧
          rs.Backs (i.snapshot c) e.verdict) := by
  obtain ⟨ha, hs⟩ := ofLoaded_eq_ok h
  refine ⟨hs, carries_of_assemble ha, fun hdecided => ?_⟩
  have hdecided : e.verdict.verdict ≠ .undetermined ∨ e.verdict.rule ≠ none := by
    rcases hdecided with hd | hd | hd
    · exact .inl (by simp [hd])
    · exact .inl (by simp [hd])
    · exact .inr hd
  obtain ⟨digest, rs, rfl, hbacks⟩ := exists_backs_of_assemble ha hdecided
  rcases hL with hL | hL
  · obtain ⟨rfl, hr⟩ := ofBytes_eq_applied hL.symm
    exact ⟨rs, rfl, hr, hbacks⟩
  · exact absurd hL (by simp)

/-- The bytes of a ruleset of one rule, which lets a place be entered once there is a confidence. -/
def entryDocument : Bytes := [
  "\x7b\"type\":\"control_ruleset_v0\",",
  "\"schema_version\":\"0.1.0\",",
  "\"ruleset_id\":\"entry\",",
  "\"action_code\":\"AO-ENTER\",",
  "\"combine_strategy\":\"FIRST_MATCH\",",
  "\"default_verdict\":\"UNDETERMINED\",",
  "\"inputs_used\":[\"problem_state.confidence\"],",
  "\"allowed_template_ids\":[\"FIELD_EXISTS\"],",
  "\"rules\":[\x7b\"rule_id\":\"confident\",\"rule_version\":\"1.0.0\",",
  "\"template_id\":\"FIELD_EXISTS\",\"expr\":\x7b\"template_id\":\"FIELD_EXISTS\",",
  "\"field_path\":\"problem_state.confidence\"\x7d,\"verdict\":\"ALLOW\"\x7d]\x7d"].flatMap Bytes.ofText

/-- The document is admitted; it judges one action and declares one input. -/
theorem exists_applied_entryDocument : ∃ rs,
    LoadedRuleset.ofBytes .standard entryDocument = .applied (.ofBytes entryDocument) rs ∧
      rs.actionCode = "AO-ENTER" ∧ rs.inputsUsed = ["problem_state.confidence"] := by
  have hadmitted : ((Admission.ofBytes .standard entryDocument).toOption.map fun rs =>
      (rs.actionCode, rs.inputsUsed)) = some ("AO-ENTER", ["problem_state.confidence"]) := by
    decide +kernel
  obtain ⟨rs, hrs, hparts⟩ := Option.map_eq_some_iff.1 hadmitted
  obtain ⟨haction, hinputs⟩ := Prod.mk.inj hparts
  refine ⟨rs, ?_, haction, hinputs⟩
  rw [LoadedRuleset.ofBytes, toOption_eq_some.1 hrs]

/-- An input that has a confidence and offers to enter the place. -/
def entryInput : EvaluationInput where
  subject := .ofProjectGroup "P0" "G0"
  window := ⟨0, 1000⟩
  actionCode := "AO-ENTER"
  problemState := .object [("confidence", .string "HIGH")]
  uncertaintyEnvelope := .null
  permissionSet :=
    .object [("candidate_actions", .array [.object [("action_code", .string "AO-ENTER")]])]

theorem backed_entryDocument : ∃ e rs,
    ofLoaded (.ofBytes .standard entryDocument) entryInput .standard ⟨"verdict-1", 5⟩ = .ok e ∧
      e.verdict.verdict = .allow ∧ Admission.ofBytes .standard entryDocument = .ok rs ∧
      rs.Backs (entryInput.snapshot .standard) e.verdict := by
  have hallow : ((ofLoaded (.ofBytes .standard entryDocument) entryInput .standard
      ⟨"verdict-1", 5⟩).toOption.map fun e => e.verdict.verdict) = some .allow := by
    decide +kernel
  obtain ⟨e, he, hv⟩ := Option.map_eq_some_iff.1 hallow
  have h : ofLoaded (.ofBytes .standard entryDocument) entryInput .standard ⟨"verdict-1", 5⟩ =
      .ok e := toOption_eq_some.1 he
  obtain ⟨rs, -, hrs, hbacks⟩ := (backed (.inl rfl) h).2.2 (.inl hv)
  exact ⟨e, rs, h, hv, hrs, hbacks⟩

end Evaluation

end ControlPlane
