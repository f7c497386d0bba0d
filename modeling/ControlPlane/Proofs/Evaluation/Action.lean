import ControlPlane.Proofs.Evaluation.Outcome

/-!
# Which action a verdict is about

An input asks about an action, and a ruleset judges one. Without a ruleset in force the verdict is
about the action that was asked for. With one it is about the action of the ruleset, which the input
only has to have on offer; the action that was asked for is not looked at, and the two may differ.

## Main statements

* `Evaluation.ofLoaded_applied_withAction` : a ruleset in force evaluates an input alike whatever
  action is asked for.
* `Evaluation.action_of_verdict` : which action a verdict is about, and when it is the one asked for.
-/

namespace ControlPlane.Evaluation

variable {c : Constitution} {i : EvaluationInput} {stamp : VerdictStamp} {L : LoadedRuleset}
  {v : ControlVerdict} {e : Evaluation} {b : Bytes} {digest : ContentDigest} {rs : Ruleset}

/-- A ruleset in force judges its own action, and that action is on offer. -/
theorem actionCode_of_assemble_applied (h : assemble (.applied digest rs) i c stamp = .ok v) :
    v.actionCode = rs.actionCode ∧ i.Offers rs.actionCode := by
  obtain ⟨hp, rfl⟩ := assemble_applied h
  exact ⟨rfl, (checkPermission_snapshot_iff.1 hp).2⟩

/-- Without a ruleset in force the verdict is about the action that was asked for. -/
theorem actionCode_of_assemble_not_applied (hL : L.isApplied = false)
    (h : assemble L i c stamp = .ok v) : v.actionCode = i.actionCode := by
  have hnot : ∀ digest rs, L ≠ .applied digest rs := by
    rintro digest rs rfl
    exact absurd hL (by simp [LoadedRuleset.isApplied])
  obtain rfl := assemble_of_not_applied hnot h
  rfl

/-- **A ruleset in force evaluates an input alike whatever action is asked for.** -/
theorem ofLoaded_applied_withAction (code : String) :
    ofLoaded (.applied digest rs) { i with actionCode := code } c stamp =
      ofLoaded (.applied digest rs) i c stamp := rfl

/-- **Which action a verdict is about.** Of a file and of a file that is missing, a verdict without a
ruleset in force is about the action that was asked for. With one it is about the action of the
ruleset, which exists and is on offer, and it is the same verdict for every action that could have been
asked for. So the verdict is about the action that was asked for exactly when no ruleset in force
judges another one, and always when the input offers no other. -/
theorem action_of_verdict (hL : L = .ofBytes c b ∨ L = .missing)
    (h : ofLoaded L i c stamp = .ok e) :
    (L.isApplied = false → e.verdict.actionCode = i.actionCode) ∧
    (∀ digest rs, L = .applied digest rs →
      e.verdict.actionCode = rs.actionCode ∧ rs.actionCode ∈ c.actionCodes ∧
        i.Offers rs.actionCode ∧
        ∀ code, ofLoaded L { i with actionCode := code } c stamp = .ok e) ∧
    (e.verdict.actionCode = i.actionCode ↔
      ∀ digest rs, L = .applied digest rs → rs.actionCode = i.actionCode) ∧
    ((∀ code, i.Offers code → code = i.actionCode) → e.verdict.actionCode = i.actionCode) := by
  obtain ⟨ha, -⟩ := ofLoaded_eq_ok h
  cases L with
  | applied digest rs =>
    obtain ⟨haction, hoffers⟩ := actionCode_of_assemble_applied ha
    have hexists : rs.actionCode ∈ c.actionCodes := by
      rcases hL with hL | hL
      · obtain ⟨-, hadmitted⟩ := ofBytes_eq_applied hL.symm
        exact (Admission.ofBytes_eq_ok_iff.1 hadmitted).2.2.actionCode_mem
      · exact absurd hL (by simp)
    refine ⟨fun hnot => absurd hnot (by simp [LoadedRuleset.isApplied]), ?_, ?_, ?_⟩
    · rintro _ _ ⟨⟩
      exact ⟨haction, hexists, hoffers, fun code => (ofLoaded_applied_withAction code).trans h⟩
    · rw [haction]
      constructor
      · rintro hasked _ _ ⟨⟩
        exact hasked
      · intro hasked
        exact hasked digest rs rfl
    · intro honly
      exact haction.trans (honly _ hoffers)
  | missing | invalid _ _ =>
    have haction := actionCode_of_assemble_not_applied rfl ha
    exact ⟨fun _ => haction, by simp, iff_of_true haction (by simp), fun _ => haction⟩

/-- The ruleset on entering a place gives a verdict whatever action is asked for. -/
theorem exists_ok_entryDocument (code : String) : ∃ e,
    ofLoaded (.ofBytes .standard entryDocument) { entryInput with actionCode := code } .standard
      ⟨"verdict-1", 5⟩ = .ok e := by
  obtain ⟨rs, hrs, -⟩ := exists_applied_entryDocument
  have hoffers : entryInput.Offers "AO-ENTER" := ⟨_, rfl, _, List.mem_cons_self, rfl⟩
  have hpassed : ¬ IsRefused .standard (.ofBytes .standard entryDocument) entryInput :=
    fun h => isRefused_entryDocument_iff.1 h hoffers
  have haccepted : IsAcceptable (.ofBytes .standard entryDocument) entryInput ⟨"verdict-1", 5⟩ :=
    ⟨by decide, by decide, ⟨by decide, by decide⟩, by decide, fun _ => by decide⟩
  have hentry := exists_ok_of_isAcceptable (.inl rfl) ⟨by decide, by decide⟩
    ⟨⟨by decide, by decide⟩, ⟨by decide, by decide⟩⟩ hpassed haccepted
  rw [hrs] at hentry ⊢
  rwa [ofLoaded_applied_withAction]

theorem action_of_verdict_entryDocument : ∃ e,
    ofLoaded (.ofBytes .standard entryDocument) entryInput .standard ⟨"verdict-1", 5⟩ = .ok e ∧
      e.verdict.actionCode = "AO-ENTER" ∧ entryInput.actionCode = "AO-ENTER" ∧
      ofLoaded (.ofBytes .standard entryDocument) { entryInput with actionCode := "AO-SENSE" }
        .standard ⟨"verdict-1", 5⟩ = .ok e := by
  obtain ⟨rs, hrs, haction, -⟩ := exists_applied_entryDocument
  obtain ⟨e, he⟩ := exists_ok_entryDocument entryInput.actionCode
  obtain ⟨-, happlied, -, -⟩ := action_of_verdict (.inl rfl) he
  obtain ⟨hverdict, -, -, halike⟩ := happlied _ rs hrs
  exact ⟨e, he, hverdict.trans haction, rfl, halike "AO-SENSE"⟩

/-- An input that has entering on offer and asks about a removal. -/
def removalInput : EvaluationInput := { entryInput with actionCode := "AO-REMOVE" }

/-- What asks about a removal is answered with a verdict on entering. -/
theorem actionCode_ne_removalInput : ∃ e,
    ofLoaded (.ofBytes .standard entryDocument) removalInput .standard ⟨"verdict-1", 5⟩ = .ok e ∧
      e.verdict.actionCode = "AO-ENTER" ∧ removalInput.actionCode = "AO-REMOVE" ∧
      e.verdict.actionCode ≠ removalInput.actionCode := by
  obtain ⟨rs, hrs, haction, -⟩ := exists_applied_entryDocument
  obtain ⟨e, he⟩ := exists_ok_entryDocument "AO-REMOVE"
  have hassemble := (ofLoaded_eq_ok he).1
  rw [hrs] at hassemble
  have hverdict := (actionCode_of_assemble_applied hassemble).1.trans haction
  exact ⟨e, he, hverdict, rfl, hverdict ▸ by decide⟩

end ControlPlane.Evaluation
