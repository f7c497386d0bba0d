import ControlPlane.Proofs.Evaluation
import ControlPlane.Proofs.Ruleset.Declared
import ControlPlane.Proofs.Snapshot.InputPath
import ControlPlane.Proofs.Snapshot.Projection

/-!
# What an evaluation depends on

A problem state may hold more than a ruleset declares, and it may claim a subject and a window of
its own. None of this has an influence: inputs that agree on the anchors, on the other two objects
and on the declared keys of the problem state are evaluated alike. A ruleset that declares the
problem state as a whole is left out.

## Main definitions

* `Ruleset.Names` : the keys of the problem state that a ruleset declares.
* `EvaluationInput.AgreeOn` : two inputs that differ in other keys only.

## Main statements

* `EvaluationInput.get?_anchoredProblemState` : the anchors replace what the problem state claims.
* `EvaluationInput.get?_snapshot_congr` : rules see the same of such inputs.
* `Evaluation.eq_of_agreeOn` : such inputs are evaluated alike.
-/

namespace ControlPlane

/-- A declared path begins at the problem state and goes on with this key, which may have a pair of
brackets behind it. -/
def Ruleset.Names (rs : Ruleset) (key : String) : Prop :=
  ∃ path ∈ rs.inputsUsed, ∃ second rest,
    InputPath.segments path = "problem_state" :: second :: rest ∧
      (second = key ∨ second = key ++ "[]")

/-- Two inputs differ at most in the action, in keys of the problem state that are not named, and in
what the problem states claim to be the subject and the window. A problem state that is no object
has no keys. -/
structure EvaluationInput.AgreeOn (named : String → Prop) (i j : EvaluationInput) : Prop where
  subject_eq : i.subject = j.subject
  window_eq : i.window = j.window
  uncertaintyEnvelope_eq : i.uncertaintyEnvelope = j.uncertaintyEnvelope
  permissionSet_eq : i.permissionSet = j.permissionSet
  problemState_eq : ∀ key, named key → key ≠ "subjectRef" → key ≠ "window" →
    i.problemState.get? key = j.problemState.get? key

namespace EvaluationInput

variable {i j : EvaluationInput} {named : String → Prop} {c : Constitution} {path : String}

/-- **The anchors replace what the problem state claims about them**, and every other key stays. -/
theorem get?_anchoredProblemState (i : EvaluationInput) (key : String) :
    i.anchoredProblemState.get? key =
      if "window" = key then some i.window.toJson
      else if "subjectRef" = key then some i.subject.toJson
      else i.problemState.get? key := by
  rw [anchoredProblemState, Json.get?, Members.get?_insert, Members.get?_insert]
  cases i.problemState <;> rfl

theorem get?_anchoredProblemState_congr (h : AgreeOn named i j) {key : String}
    (hkey : named key ∨ key = "subjectRef" ∨ key = "window") :
    i.anchoredProblemState.get? key = j.anchoredProblemState.get? key := by
  rw [get?_anchoredProblemState, get?_anchoredProblemState, h.window_eq, h.subject_eq]
  by_cases hwindow : "window" = key
  · rw [if_pos hwindow, if_pos hwindow]
  by_cases hsubject : "subjectRef" = key
  · rw [if_neg hwindow, if_neg hwindow, if_pos hsubject, if_pos hsubject]
  rw [if_neg hwindow, if_neg hwindow, if_neg hsubject, if_neg hsubject]
  rcases hkey with hnamed | heq | heq
  · exact h.problemState_eq key hnamed (Ne.symm hsubject) (Ne.symm hwindow)
  · exact absurd heq.symm hsubject
  · exact absurd heq.symm hwindow

/-- Rules see the same of two inputs at a path that goes to a named key, to an anchor or elsewhere.
-/
theorem get?_snapshot_congr (h : AgreeOn named i j) (hbare : path ≠ "problem_state")
    (hsecond : ∀ second rest, InputPath.segments path = "problem_state" :: second :: rest →
      named (InputPath.Segment.ofText second).name ∨
        (InputPath.Segment.ofText second).name = "subjectRef" ∨
          (InputPath.Segment.ofText second).name = "window") :
    (i.snapshot c).get? path = (j.snapshot c).get? path := by
  have hresolve : InputPath.resolve?
        ⟨i.anchoredProblemState, i.uncertaintyEnvelope, i.permissionSet⟩ path =
      InputPath.resolve? ⟨j.anchoredProblemState, j.uncertaintyEnvelope, j.permissionSet⟩ path :=
    InputPath.resolve?_congr h.uncertaintyEnvelope_eq h.permissionSet_eq hbare
      fun second rest hsegments => get?_anchoredProblemState_congr h (hsecond second rest hsegments)
  rw [snapshot, snapshot, Snapshot.get?_project, Snapshot.get?_project, hresolve]

theorem agreeOn_windowPaths (h : AgreeOn named i j) :
    Snapshot.AgreeOn Snapshot.windowPaths (i.snapshot c) (j.snapshot c) := by
  have hpaths : ∀ path ∈ Snapshot.windowPaths, path ≠ "problem_state" ∧
      (InputPath.segments path)[1]? = some "window" := by decide
  have hname : (InputPath.Segment.ofText "window").name = "window" := by decide
  intro path hpath
  obtain ⟨hbare, hsegments⟩ := hpaths path hpath
  refine get?_snapshot_congr h hbare fun second rest heq => .inr (.inr ?_)
  rw [heq] at hsegments
  obtain rfl : second = "window" := Option.some.inj hsegments
  exact hname

theorem get?_candidateActions_congr (h : AgreeOn named i j) :
    (i.snapshot c).get? Ruleset.candidateActions =
      (j.snapshot c).get? Ruleset.candidateActions := by
  have hsegments : InputPath.segments Ruleset.candidateActions =
      ["permission_set", "candidate_actions[]", "action_code"] := by decide
  refine get?_snapshot_congr h (by decide) fun second rest heq => ?_
  rw [hsegments] at heq
  exact absurd (List.cons.inj heq).1 (by decide)

/-- Rules see the same of two inputs at every declared path. -/
theorem agreeOn_inputsUsed {rs : Ruleset} (h : AgreeOn rs.Names i j)
    (hbare : "problem_state" ∉ rs.inputsUsed) :
    Snapshot.AgreeOn rs.inputsUsed (i.snapshot c) (j.snapshot c) := by
  intro path hpath
  have hne : path ≠ "problem_state" := fun heq => hbare (heq ▸ hpath)
  refine get?_snapshot_congr h hne fun second rest hsegments => .inl ?_
  exact ⟨path, hpath, second, rest, hsegments, InputPath.Segment.eq_name_or_eq_append second⟩

end EvaluationInput

namespace Evaluation

variable {c : Constitution} {i j : EvaluationInput} {digest : ContentDigest} {rs : Ruleset}

/-- A ruleset within reach decides alike on inputs that agree on what it names. -/
theorem evaluate_snapshot_congr (hreach : Admission.WithinReach c rs)
    (hbare : "problem_state" ∉ rs.inputsUsed) (h : i.AgreeOn rs.Names j) :
    rs.evaluate (i.snapshot c) = rs.evaluate (j.snapshot c) := by
  have hinputs := EvaluationInput.agreeOn_inputsUsed (c := c) h hbare
  exact Ruleset.evaluate_congr (EvaluationInput.get?_candidateActions_congr h)
    (EvaluationInput.agreeOn_windowPaths h) fun rule hrule => hreach.agreeOn_paths hinputs hrule

theorem assemble_congr (hreach : Admission.WithinReach c rs)
    (hbare : "problem_state" ∉ rs.inputsUsed) (h : i.AgreeOn rs.Names j) (stamp : VerdictStamp) :
    assemble (.applied digest rs) i c stamp = assemble (.applied digest rs) j c stamp := by
  have hanchors : i.anchors = j.anchors := by
    rw [EvaluationInput.anchors, EvaluationInput.anchors, h.subject_eq, h.window_eq]
  rw [assemble, assemble, Ruleset.judge, Ruleset.judge, evaluate_snapshot_congr hreach hbare h,
    hanchors]

/-- **What is not declared has no influence on a verdict, and neither has a forged anchor.** A
ruleset in force evaluates two inputs alike, with the same verdict or the same failure, if they
agree on the subject, the window, the uncertainty envelope, the permission set, and on the keys of
the problem state that the ruleset names, other than those of the anchors. -/
theorem eq_of_agreeOn {b : Bytes} (hL : LoadedRuleset.ofBytes c b = .applied digest rs)
    (hbare : "problem_state" ∉ rs.inputsUsed) (h : i.AgreeOn rs.Names j) (stamp : VerdictStamp) :
    ofLoaded (.applied digest rs) i c stamp = ofLoaded (.applied digest rs) j c stamp := by
  obtain ⟨-, hadmitted⟩ := ofBytes_eq_applied hL
  obtain ⟨-, -, hreach⟩ := Admission.ofBytes_eq_ok_iff.1 hadmitted
  rw [ofLoaded, ofLoaded, assemble_congr hreach hbare h]

/-- The input on entering a place, with a forged subject and window, data that no rule may read, and
another action. -/
def forgedInput : EvaluationInput where
  subject := .ofProjectGroup "P0" "G0"
  window := ⟨0, 1000⟩
  actionCode := "AO-REMOVE"
  problemState := .object [("confidence", .string "HIGH"), ("note", .string "trust me"),
    ("subjectRef", .object [("projectId", .string "P1")]), ("window", .null)]
  uncertaintyEnvelope := .null
  permissionSet :=
    .object [("candidate_actions", .array [.object [("action_code", .string "AO-ENTER")]])]

theorem eq_of_agreeOn_forgedInput : ∃ digest rs,
    LoadedRuleset.ofBytes .standard entryDocument = .applied digest rs ∧
      "problem_state" ∉ rs.inputsUsed ∧ entryInput.AgreeOn rs.Names forgedInput ∧
      ofLoaded (.applied digest rs) entryInput .standard ⟨"verdict-1", 5⟩ =
        ofLoaded (.applied digest rs) forgedInput .standard ⟨"verdict-1", 5⟩ := by
  obtain ⟨rs, hrs, -, hinputs⟩ := exists_applied_entryDocument
  have hbare : "problem_state" ∉ rs.inputsUsed := by
    rw [hinputs]
    decide
  have hagree : entryInput.AgreeOn rs.Names forgedInput := by
    refine ⟨rfl, rfl, rfl, rfl, ?_⟩
    rintro key ⟨path, hpath, second, rest, hsegments, hkey⟩ - -
    rw [hinputs, List.mem_singleton] at hpath
    have hpath : InputPath.segments path = ["problem_state", "confidence"] := by
      rw [hpath]
      decide
    obtain ⟨rfl, -⟩ := List.cons.inj (List.cons.inj (hpath.symm.trans hsegments)).2
    rcases hkey with rfl | hbrackets
    · rfl
    · have hlast := congrArg (fun text => text.toList.getLast?) hbrackets
      exact absurd hlast (by simp [String.toList_append])
  exact ⟨_, rs, hrs, hbare, hagree, eq_of_agreeOn hrs hbare hagree ⟨"verdict-1", 5⟩⟩

end Evaluation

end ControlPlane
