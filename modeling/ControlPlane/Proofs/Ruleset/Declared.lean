import ControlPlane.ControlVerdict.Basic
import ControlPlane.Proofs.Admission
import ControlPlane.Proofs.Condition.Reads

/-!
# What rulesets declare

Conditions are walked twice: once at admission, which collects the paths that they name, and once for
each decision, which judges them. Both walks meet the same paths, so a ruleset that was admitted reads
what it declares and no more. There are two exceptions, which no ruleset declares: the bounds of the
windows, as soon as one condition compares windows, and the actions on offer.

## Main definitions

* `Ruleset.ComparesWindows` : some condition compares windows at some depth.

## Main statements

* `Admission.WithinReach.holds_congr` : declared inputs settle every condition.
* `Ruleset.decision_eq_of_agreeOn_inputsUsed` : what a decision and a verdict depend on.
-/

namespace ControlPlane

/-- Some condition compares windows at some depth. -/
def Ruleset.ComparesWindows (r : Ruleset) : Prop :=
  ∃ rule ∈ r.rules, Condition.IsPart .windowMatch rule.condition

namespace Admission.WithinReach

variable {c : Constitution} {r : Ruleset} {s t : Snapshot}

/-- Within reach, the paths that a condition names are declared. -/
theorem agreeOn_paths (hreach : WithinReach c r) (h : Snapshot.AgreeOn r.inputsUsed s t)
    {rule : Rule} (hrule : rule ∈ r.rules) : Snapshot.AgreeOn rule.condition.paths s t := by
  intro path hpath
  exact h path (Condition.forall_mem_paths_iff.2 (hreach.path_mem rule hrule) path hpath)

/-- **The declared inputs settle every condition, together with the bounds of the windows if windows
are compared.** -/
theorem holds_congr (hreach : WithinReach c r) (h : Snapshot.AgreeOn r.inputsUsed s t)
    (hwindows : r.ComparesWindows → Snapshot.AgreeOn Snapshot.windowPaths s t) {rule : Rule}
    (hrule : rule ∈ r.rules) : rule.condition.holds s = rule.condition.holds t :=
  rule.condition.holds_congr (hreach.agreeOn_paths h hrule) fun hpart =>
    hwindows ⟨rule, hrule, hpart⟩

end Admission.WithinReach

namespace Ruleset

variable {c : Constitution} {v : Json} {r : Ruleset} {s t : Snapshot}

/-- **An admitted ruleset reads what it declares only.** It decides alike on snapshots that agree on
the declared inputs, and on the bounds of the windows if some condition compares windows. If they
agree on the actions on offer as well, then both make the same verdict, or both are refused. -/
theorem decision_eq_of_agreeOn_inputsUsed (hadmitted : Admission.ofJson c v = .ok r)
    (h : Snapshot.AgreeOn r.inputsUsed s t)
    (hwindows : r.ComparesWindows → Snapshot.AgreeOn Snapshot.windowPaths s t) :
    r.decision s = r.decision t ∧
      (s.get? candidateActions = t.get? candidateActions →
        r.evaluate s = r.evaluate t ∧
          ∀ anchors stamp, r.judge s anchors stamp = r.judge t anchors stamp) := by
  have hreach := Admission.withinReach_of_ofJson hadmitted
  have hdecision : r.decision s = r.decision t :=
    decision_congr fun rule hrule => hreach.holds_congr h hwindows hrule
  refine ⟨hdecision, fun hcandidates => ?_⟩
  have hevaluate := evaluate_eq_of_decision_eq hcandidates hdecision
  refine ⟨hevaluate, fun anchors stamp => ?_⟩
  rw [judge, judge, hevaluate]

/-- A ruleset that lets a place be entered once there is a confidence, but not in another window than
the permitted one. It declares the confidence only. -/
def seasonRuleset : Ruleset :=
  { Admission.entryRuleset with
    strategy := .denyOverrides
    allowedTemplates := [.fieldExists, .logicalOrNot]
    rules :=
      [⟨"confident", "1.0.0", .fieldExists, .fieldExists "problem_state.confidence", .allow⟩,
        ⟨"out-of-season", "1.0.0", .logicalOrNot, .not .windowMatch, .deny⟩] }

theorem seasonRuleset_wellFormed : seasonRuleset.WellFormed :=
  { Admission.entryRuleset_wellFormed with
    allowedTemplates_ne_nil := by decide
    rules_ne_nil := by simp [seasonRuleset]
    rules_wellFormed := by
      have hversion : IsSemver "1.0.0" := isVersion_iff.1 (by decide)
      simp only [seasonRuleset, List.forall_mem_cons]
      exact ⟨⟨by decide, hversion, .fieldExists (by decide)⟩,
        ⟨by decide, hversion, .not .windowMatch⟩, by simp⟩ }

theorem seasonRuleset_withinReach : Admission.WithinReach .standard seasonRuleset :=
  { Admission.entryRuleset_withinReach with
    template_mem := by simp [seasonRuleset]
    template_eq := by simp [seasonRuleset, Condition.template]
    path_mem := by
      have hdeclared : ∀ rule ∈ seasonRuleset.rules, ∀ path ∈ rule.condition.paths,
          path ∈ seasonRuleset.inputsUsed := by decide
      exact fun rule hrule => Condition.forall_mem_paths_iff.1 (hdeclared rule hrule) }

theorem ofJson_seasonRuleset :
    Admission.ofJson .standard seasonRuleset.toJson = .ok seasonRuleset :=
  Admission.ofJson_toJson seasonRuleset_wellFormed seasonRuleset_withinReach

/-- A confidence is given, entering is on offer, and the subject's window starts when the permitted
one does. -/
def seasonSnapshot (scale : Json) : Snapshot where
  entries := [(candidateActions, .array [.string "AO-ENTER"]),
    (Snapshot.permittedStart, .integer 7), ("problem_state.confidence", .string "HIGH"),
    ("problem_state.scale", scale), (Snapshot.subjectStart, .integer 7)]

theorem decision_eq_of_agreeOn_inputsUsed_seasonRuleset :
    Admission.ofJson .standard seasonRuleset.toJson = .ok seasonRuleset ∧
      seasonRuleset.ComparesWindows ∧
      Snapshot.AgreeOn seasonRuleset.inputsUsed (seasonSnapshot (.string "PLOT"))
        (seasonSnapshot (.string "FIELD")) ∧
      Snapshot.AgreeOn Snapshot.windowPaths (seasonSnapshot (.string "PLOT"))
        (seasonSnapshot (.string "FIELD")) ∧
      seasonRuleset.decision (seasonSnapshot (.string "FIELD")) =
        ⟨.allow, some ⟨"entry", "confident", "1.0.0"⟩⟩ ∧
      seasonRuleset.evaluate (seasonSnapshot (.string "PLOT")) =
        seasonRuleset.evaluate (seasonSnapshot (.string "FIELD")) := by
  have hcompares : seasonRuleset.ComparesWindows :=
    ⟨_, List.mem_cons_of_mem _ List.mem_cons_self, .not .whole⟩
  have hinputs : Snapshot.AgreeOn seasonRuleset.inputsUsed (seasonSnapshot (.string "PLOT"))
      (seasonSnapshot (.string "FIELD")) := by
    rintro path (_ | ⟨_, ⟨⟩⟩)
    rfl
  have hwindows : Snapshot.AgreeOn Snapshot.windowPaths (seasonSnapshot (.string "PLOT"))
      (seasonSnapshot (.string "FIELD")) := by
    simp only [Snapshot.AgreeOn, Snapshot.windowPaths, List.forall_mem_cons]
    exact ⟨rfl, rfl, rfl, rfl, by simp⟩
  obtain ⟨hdecision, hevaluate⟩ :=
    decision_eq_of_agreeOn_inputsUsed ofJson_seasonRuleset hinputs fun _ => hwindows
  have hallow : seasonRuleset.decision (seasonSnapshot (.string "PLOT")) =
      ⟨.allow, some ⟨"entry", "confident", "1.0.0"⟩⟩ := by decide +kernel
  exact ⟨ofJson_seasonRuleset, hcompares, hinputs, hwindows, hdecision.symm.trans hallow,
    (hevaluate rfl).1⟩

end Ruleset

end ControlPlane
