import ControlPlane.Proofs.Evaluation
import ControlPlane.Proofs.Snapshot.Projection

/-!
# What an evaluation ends in

An evaluation ends in a verdict, in a refusal of the kernel or in a breach of the contract, and each
of these has its own cause. The kernel refuses when the action of the ruleset is not on offer. What
the library itself puts into a verdict always meets the contract: the version, the reference to the
file, the anchor of the rule and the action of an admitted ruleset. So the contract is only ever
broken by what the caller gave: the stamp, the subject, the window, and the action where no ruleset
has one.

## Main definitions

* `EvaluationInput.Offers` : the permission set offers an action.
* `Evaluation.IsRefused` : the ruleset in force judges an action that is not on offer.
* `Evaluation.IsAcceptable` : what the caller gave meets the contract.

## Main statements

* `LoadedRuleset.isReference_reference` : the reference to a file always meets the contract.
* `Evaluation.exists_assemble_eq_error_iff` : when the kernel refuses.
* `Evaluation.meetsContract_iff_isAcceptable` : an assembled verdict meets the contract exactly when
  what the caller gave does.
* `Evaluation.outcome` : what an evaluation ends in.
-/

namespace ControlPlane

open Wire (OfJson)

/-- The candidate actions of the permission set are a list, and one of them has this code. -/
def EvaluationInput.Offers (i : EvaluationInput) (code : String) : Prop :=
  ∃ candidates, i.permissionSet.get? "candidate_actions" = some (.array candidates) ∧
    ∃ candidate ∈ candidates, candidate.get? "action_code" = some (.string code)

/-! ### What the library writes -/

theorem RuleReference.anchor_ne_empty (r : RuleReference) : r.anchor ≠ "" := by
  rw [anchor]
  split
  · decide
  · intro h
    have hlist : (anchorSpace ++ r.text).toList = "".toList := congrArg String.toList h
    rw [String.toList_append] at hlist
    exact absurd (List.append_eq_nil_iff.1 hlist).1 (by decide)

/-- A file is referred to by its content, or as missing. -/
theorem LoadedRuleset.isReference_reference (L : LoadedRuleset) :
    L.reference = ControlVerdict.missingReference ∨ ContentDigest.IsReference L.reference := by
  cases L with
  | applied digest _ => exact .inr digest.isReference_reference
  | missing => exact .inl rfl
  | invalid digest _ => exact .inr digest.isReference_reference

namespace Evaluation

variable {c : Constitution} {i : EvaluationInput} {stamp : VerdictStamp} {L : LoadedRuleset}
  {v : ControlVerdict} {b : Bytes}

/-! ### Refusal -/

/-- The ruleset of the file is in force, and it judges an action that rules cannot see on offer. -/
def IsRefused (c : Constitution) (L : LoadedRuleset) (i : EvaluationInput) : Prop :=
  ∃ digest rs, L = .applied digest rs ∧
    ¬ (Ruleset.candidateActions ∈ c.inputPaths ∧ i.Offers rs.actionCode)

/-- Rules see an action on offer when they may look and it is there. -/
theorem checkPermission_snapshot_iff {rs : Ruleset} :
    rs.checkPermission (i.snapshot c) = .ok () ↔
      Ruleset.candidateActions ∈ c.inputPaths ∧ i.Offers rs.actionCode := by
  rw [Ruleset.checkPermission_eq_ok_iff, EvaluationInput.snapshot, Snapshot.get?_project]
  by_cases hpath : Ruleset.candidateActions ∈ c.inputPaths
  · rw [if_pos hpath, InputPath.exists_code_iff, EvaluationInput.Offers, and_iff_right hpath]
  · rw [if_neg hpath]
    exact iff_of_false (by simp) fun h => hpath h.1

/-- A verdict cannot be assembled exactly when the action is not on offer. -/
theorem exists_assemble_eq_error_iff :
    (∃ e, assemble L i c stamp = .error e) ↔ IsRefused c L i := by
  cases L with
  | applied digest rs =>
    have hassemble : (∃ e, assemble (.applied digest rs) i c stamp = .error e) ↔
        rs.checkPermission (i.snapshot c) ≠ .ok () := by
      rw [assemble, Ruleset.judge, Ruleset.evaluate]
      cases rs.checkPermission (i.snapshot c) with
      | error e => simp [bind, Except.bind, Except.map]
      | ok _ => simp [bind, Except.bind, Except.map, pure, Except.pure]
    rw [hassemble, ne_eq, checkPermission_snapshot_iff]
    constructor
    · intro h
      exact ⟨digest, rs, rfl, h⟩
    · rintro ⟨_, _, ⟨⟩, h⟩
      exact h
  | missing =>
    refine iff_of_false (by simp [assemble]) ?_
    rintro ⟨_, _, h, -⟩
    exact absurd h (by simp)
  | invalid digest refusal =>
    refine iff_of_false (by simp [assemble]) ?_
    rintro ⟨_, _, h, -⟩
    exact absurd h (by simp)

theorem ofLoaded_of_assemble_error {e : NotPermitted} (h : assemble L i c stamp = .error e) :
    ofLoaded L i c stamp = .error (.notPermitted e) := by
  rw [ofLoaded, h]
  rfl

theorem ofLoaded_of_assemble (h : assemble L i c stamp = .ok v) :
    ofLoaded L i c stamp = match v.revalidate with
      | .ok d => .ok ⟨d, L.status⟩
      | .error breach => .error (.contract breach) := by
  rw [ofLoaded, h]
  cases hv : v.revalidate <;> simp [hv, bind, Except.bind, pure, Except.pure]

/-! ### What the caller gives -/

/-- The stamp, the subject and the window are such as the contract asks for, and so is the action of
the input where no ruleset gives one. -/
structure IsAcceptable (L : LoadedRuleset) (i : EvaluationInput) (stamp : VerdictStamp) : Prop where
  id_ne : stamp.id ≠ ""
  time_nonneg : 0 ≤ stamp.time
  subject_wellFormed : i.subject.WellFormed
  window_wellFormed : i.window.IsWellFormed
  actionCode_ne : L.isApplied = false → i.actionCode ≠ ""

theorem fitsInt64_of_assemble (hstamp : OfJson.FitsInt64 stamp.time) (hwindow : i.window.FitsInt64)
    (h : assemble L i c stamp = .ok v) : v.FitsInt64 := by
  have hcarries := carries_of_assemble h
  exact ⟨hcarries.evaluatedAt_eq ▸ hstamp, hcarries.window_eq ▸ hwindow⟩

theorem ruleset_of_assemble (h : assemble L i c stamp = .ok v) :
    ∀ text ∈ v.ruleset,
      text = ControlVerdict.missingReference ∨ ContentDigest.IsReference text := by
  intro text htext
  rw [(carries_of_assemble h).ruleset_eq] at htext
  obtain rfl := Option.some.inj htext
  exact L.isReference_reference

theorem schemaVersion_of_assemble (h : assemble L i c stamp = .ok v) :
    v.schemaVersion = ControlVerdict.currentSchema := by
  cases L with
  | applied digest rs =>
    obtain ⟨-, rfl⟩ := assemble_applied h
    rfl
  | missing =>
    obtain rfl := assemble_of_not_applied (by simp) h
    rfl
  | invalid digest refusal =>
    obtain rfl := assemble_of_not_applied (by simp) h
    rfl

theorem rule_ne_of_assemble (h : assemble L i c stamp = .ok v) : v.rule ≠ some "" := by
  by_cases hrule : v.verdict ≠ .undetermined ∨ v.rule ≠ none
  · obtain ⟨_, rs, -, hbacks⟩ := exists_backs_of_assemble h hrule
    obtain ⟨rule, -, -, hcited, -⟩ := hbacks.rule_holds
    intro hempty
    exact (rs.reference rule).anchor_ne_empty (Option.some.inj (hcited.symm.trans hempty))
  · obtain ⟨-, hnone⟩ := not_or.1 hrule
    simp [not_not.1 hnone]

/-- The action of an admitted ruleset has a name, so only the action of the input may lack one. -/
theorem actionCode_ne_iff_of_assemble (hL : L = .ofBytes c b ∨ L = .missing)
    (h : assemble L i c stamp = .ok v) :
    v.actionCode ≠ "" ↔ (L.isApplied = false → i.actionCode ≠ "") := by
  cases L with
  | applied digest rs =>
    rcases hL with hL | hL
    · obtain ⟨-, hadmitted⟩ := ofBytes_eq_applied hL.symm
      obtain ⟨-, hwellFormed, -⟩ := Admission.ofBytes_eq_ok_iff.1 hadmitted
      obtain ⟨-, rfl⟩ := assemble_applied h
      exact iff_of_true hwellFormed.actionCode_ne fun happlied => by
        simp [LoadedRuleset.isApplied] at happlied
    · exact absurd hL (by simp)
  | missing =>
    obtain rfl := assemble_of_not_applied (by simp) h
    simp [ControlVerdict.withoutRuleset, LoadedRuleset.isApplied]
  | invalid digest refusal =>
    obtain rfl := assemble_of_not_applied (by simp) h
    simp [ControlVerdict.withoutRuleset, LoadedRuleset.isApplied]

/-- **An assembled verdict meets the contract exactly when what the caller gave is acceptable.** -/
theorem meetsContract_iff_isAcceptable (hL : L = .ofBytes c b ∨ L = .missing)
    (h : assemble L i c stamp = .ok v) : v.MeetsContract ↔ IsAcceptable L i stamp := by
  have hcarries := carries_of_assemble h
  have haction := actionCode_ne_iff_of_assemble hL h
  constructor
  · intro hv
    exact ⟨hcarries.id_eq ▸ hv.id_ne, hcarries.evaluatedAt_eq ▸ hv.evaluatedAt_nonneg,
      hcarries.subject_eq ▸ hv.subject_wellFormed, hcarries.window_eq ▸ hv.window_wellFormed,
      haction.1 hv.actionCode_ne⟩
  · intro hi
    have hversion := schemaVersion_of_assemble h
    exact ⟨hversion ▸ ControlVerdict.currentSchema_isSemver, hcarries.id_eq ▸ hi.id_ne,
      haction.2 hi.actionCode_ne, hcarries.evaluatedAt_eq ▸ hi.time_nonneg,
      hcarries.subject_eq ▸ hi.subject_wellFormed, hcarries.window_eq ▸ hi.window_wellFormed,
      rule_ne_of_assemble h, ruleset_of_assemble h⟩

/-! ### The outcome -/

/-- Where the kernel does not refuse, there is a verdict exactly when what the caller gave is
acceptable. -/
theorem exists_ok_iff_of_assemble (hL : L = .ofBytes c b ∨ L = .missing)
    (hstamp : OfJson.FitsInt64 stamp.time) (hwindow : i.window.FitsInt64)
    (h : assemble L i c stamp = .ok v) :
    (∃ e, ofLoaded L i c stamp = .ok e) ↔ IsAcceptable L i stamp := by
  rw [← meetsContract_iff_isAcceptable hL h,
    ← ControlVerdict.revalidate_isOk_iff (fitsInt64_of_assemble hstamp hwindow h),
    ofLoaded_of_assemble h]
  cases v.revalidate <;> simp

/-- There is a verdict where the kernel does not refuse and what the caller gave is acceptable. -/
theorem exists_ok_of_isAcceptable (hL : L = .ofBytes c b ∨ L = .missing)
    (hstamp : OfJson.FitsInt64 stamp.time) (hwindow : i.window.FitsInt64)
    (hpassed : ¬ IsRefused c L i) (hi : IsAcceptable L i stamp) :
    ∃ e, ofLoaded L i c stamp = .ok e := by
  cases h : assemble L i c stamp with
  | error e => exact absurd (exists_assemble_eq_error_iff.1 ⟨e, h⟩) hpassed
  | ok v => exact (exists_ok_iff_of_assemble hL hstamp hwindow h).2 hi

/-- **What an evaluation ends in.** Of a file and of a file that is missing, the kernel refuses
exactly when the ruleset in force judges an action that is not on offer. Otherwise there is a
verdict exactly when the stamp, the subject, the window and, without a ruleset in force, the action
are acceptable, and if they are not, the contract is broken. It is never broken by the reference to
the file, and never found to be broken by a subject that is empty. -/
theorem outcome (i : EvaluationInput) (stamp : VerdictStamp) (hL : L = .ofBytes c b ∨ L = .missing)
    (hstamp : OfJson.FitsInt64 stamp.time) (hwindow : i.window.FitsInt64) :
    ((∃ e, ofLoaded L i c stamp = .error (.notPermitted e)) ↔ IsRefused c L i) ∧
      (¬ IsRefused c L i →
        ((∃ e, ofLoaded L i c stamp = .ok e) ↔ IsAcceptable L i stamp) ∧
        (¬ IsAcceptable L i stamp → ∃ breach, ofLoaded L i c stamp = .error (.contract breach))) ∧
      (∀ text, ofLoaded L i c stamp ≠ .error (.contract (.noContentReference text))) ∧
      ofLoaded L i c stamp ≠ .error (.contract .emptySubject) := by
  have hassemble : (∃ e, assemble L i c stamp = .error e) ↔ IsRefused c L i :=
    exists_assemble_eq_error_iff
  cases h : assemble L i c stamp with
  | error e =>
    have hrefused := hassemble.1 ⟨e, h⟩
    rw [ofLoaded_of_assemble_error h]
    exact ⟨iff_of_true ⟨e, rfl⟩ hrefused, fun hnot => absurd hrefused hnot, by simp, by simp⟩
  | ok v =>
    have hnot : ¬ IsRefused c L i := fun hrefused => by
      obtain ⟨e, he⟩ := hassemble.2 hrefused
      exact absurd (h.symm.trans he) (by simp)
    have hfits := fitsInt64_of_assemble hstamp hwindow h
    have hok := exists_ok_iff_of_assemble hL hstamp hwindow h
    have hsubject := ControlVerdict.parse_ne_emptySubject (ControlVerdict.wellFormed_toJson hfits)
    have href := ControlVerdict.revalidate_ne_noContentReference (ruleset_of_assemble h)
    rw [ofLoaded_of_assemble h] at hok ⊢
    rw [ControlVerdict.revalidate] at href hok ⊢
    cases hv : ControlVerdict.parse v.toJson with
    | ok d =>
      rw [hv] at hok
      have hacceptable := hok.1 ⟨_, rfl⟩
      exact ⟨iff_of_false (by simp) hnot, fun _ => ⟨iff_of_true ⟨_, rfl⟩ hacceptable,
        fun hn => absurd hacceptable hn⟩, by simp, by simp⟩
    | error breach =>
      rw [hv] at hok hsubject href
      refine ⟨iff_of_false (by simp) hnot, fun _ => ⟨hok, fun _ => ⟨breach, rfl⟩⟩, ?_, ?_⟩
      · intro text htext
        exact href text (by simpa using htext)
      · intro hempty
        exact hsubject (by simpa using hempty)

/-- The ruleset on entering a place refuses exactly the inputs that do not offer to enter it. -/
theorem isRefused_entryDocument_iff {i : EvaluationInput} :
    IsRefused .standard (.ofBytes .standard entryDocument) i ↔ ¬ i.Offers "AO-ENTER" := by
  obtain ⟨rs, hrs, haction, -⟩ := exists_applied_entryDocument
  have hpath : Ruleset.candidateActions ∈ Constitution.standard.inputPaths :=
    KeySet.mem_ofList.2 (by decide)
  rw [hrs]
  constructor
  · rintro ⟨_, _, ⟨⟩, hnot⟩ hoffers
    exact hnot ⟨hpath, haction ▸ hoffers⟩
  · intro hnot
    exact ⟨_, rs, rfl, fun h => hnot (haction ▸ h.2)⟩

/-- An input that offers nothing. -/
def closedInput : EvaluationInput := { entryInput with permissionSet := .null }

/-- The three ends: a verdict, a refusal where nothing is on offer, and a breach where the stamp has
no name. -/
theorem outcome_entryDocument :
    (∃ e, ofLoaded (.ofBytes .standard entryDocument) entryInput .standard ⟨"verdict-1", 5⟩ =
      .ok e) ∧
    (∃ e, ofLoaded (.ofBytes .standard entryDocument) closedInput .standard ⟨"verdict-1", 5⟩ =
      .error (.notPermitted e)) ∧
    ∃ breach, ofLoaded (.ofBytes .standard entryDocument) entryInput .standard ⟨"", 5⟩ =
      .error (.contract breach) := by
  have htime : OfJson.FitsInt64 5 := ⟨by decide, by decide⟩
  have hwindow : (⟨0, 1000⟩ : Window).FitsInt64 := ⟨⟨by decide, by decide⟩, ⟨by decide, by decide⟩⟩
  have hoffers : entryInput.Offers "AO-ENTER" := ⟨_, rfl, _, List.mem_cons_self, rfl⟩
  have hpassed : ¬ IsRefused .standard (.ofBytes .standard entryDocument) entryInput :=
    fun h => isRefused_entryDocument_iff.1 h hoffers
  have hclosed : IsRefused .standard (.ofBytes .standard entryDocument) closedInput := by
    refine isRefused_entryDocument_iff.2 ?_
    rintro ⟨_, hnone, -⟩
    exact absurd hnone (by simp [closedInput, Json.get?])
  have haccepted : IsAcceptable (.ofBytes .standard entryDocument) entryInput ⟨"verdict-1", 5⟩ :=
    ⟨by decide, by decide, ⟨by decide, by decide⟩, by decide, fun _ => by decide⟩
  have hnameless : ¬ IsAcceptable (.ofBytes .standard entryDocument) entryInput ⟨"", 5⟩ :=
    fun h => h.id_ne rfl
  have hL : LoadedRuleset.ofBytes .standard entryDocument = .ofBytes .standard entryDocument ∨
      LoadedRuleset.ofBytes .standard entryDocument = .missing := .inl rfl
  have hentry := outcome entryInput ⟨"verdict-1", 5⟩ hL htime hwindow
  have hrefusal := outcome closedInput ⟨"verdict-1", 5⟩ hL htime hwindow
  have hbreach := outcome entryInput ⟨"", 5⟩ hL htime hwindow
  exact ⟨(hentry.2.1 hpassed).1.2 haccepted, hrefusal.1.2 hclosed,
    (hbreach.2.1 hpassed).2 hnameless⟩

end Evaluation

end ControlPlane
