import ControlPlane.ControlVerdict.Contract
import ControlPlane.Proofs.ControlVerdict.Document
import ControlPlane.Proofs.Digest.Reference

/-!
# The contract of verdicts

A document is a verdict exactly when it is the document form of a record that meets the contract.
Parsing therefore never alters a verdict, and one of its refusals never happens: a subject without a
name does not get past the schema.

## Main definitions

* `ControlVerdict.MeetsContract` : what the contract asks of a verdict.

## Main statements

* `ControlVerdict.parse_eq_ok_iff` : which documents are parsed, and to what.
* `ControlVerdict.eq_of_revalidate_eq_ok` : validation changes nothing.
* `ControlVerdict.parse_ne_emptySubject` : the refusal that never happens.
* `ControlVerdict.revalidate_isOk_iff` : which verdicts pass validation.
* `ControlVerdict.parse_exact` : these taken together.
-/

namespace ControlPlane.ControlVerdict

variable {c c' : ControlVerdict} {v : Json}

/-- What the contract asks of a verdict. -/
structure MeetsContract (c : ControlVerdict) : Prop where
  schemaVersion_isSemver : IsSemver c.schemaVersion
  id_ne : c.id ≠ ""
  actionCode_ne : c.actionCode ≠ ""
  evaluatedAt_nonneg : 0 ≤ c.evaluatedAt
  subject_wellFormed : c.subject.WellFormed
  window_wellFormed : c.window.IsWellFormed
  rule_ne : c.rule ≠ some ""
  ruleset_isReference : ∀ text ∈ c.ruleset, text = missingReference ∨ ContentDigest.IsReference text

theorem isRulesetReference_iff {text : String} :
    isRulesetReference text = true ↔ text = missingReference ∨ ContentDigest.IsReference text := by
  rw [isRulesetReference, Bool.or_eq_true, beq_iff_eq, ContentDigest.ofReference_isOk_iff]

theorem check_eq_ok_iff :
    c.check = .ok () ↔ c.subject.isEmpty = false ∧ c.window.IsWellFormed ∧
      ∀ text ∈ c.ruleset, text = missingReference ∨ ContentDigest.IsReference text := by
  simp only [← isRulesetReference_iff]
  rw [check]
  split
  · next h => simp [h]
  · next h =>
    split
    · next hw => simp [h, hw]
    · next hw =>
      cases hr : c.ruleset with
      | none => simp [h, not_not.1 hw]
      | some text =>
        rw [Option.filter_some]
        by_cases ht : isRulesetReference text = true
        · simp [h, not_not.1 hw, ht]
        · simp [ht]

/-- The contract is the schema together with the conditions beyond it. -/
theorem meetsContract_iff : c.MeetsContract ↔ c.MeetsSchema ∧ c.check = .ok () := by
  rw [check_eq_ok_iff]
  constructor
  · intro h
    have hne : c.ruleset ≠ some "" := fun he => by
      rcases h.ruleset_isReference "" he with hm | ⟨digits, -, -, hd⟩
      · exact absurd hm (by decide)
      · exact absurd hd (by simp)
    obtain ⟨hstart, hend⟩ := h.window_wellFormed
    exact ⟨⟨h.schemaVersion_isSemver, h.id_ne, h.evaluatedAt_nonneg, h.subject_wellFormed, hstart,
      by omega, h.actionCode_ne, h.rule_ne, hne⟩, h.subject_wellFormed.isEmpty_eq,
      h.window_wellFormed, h.ruleset_isReference⟩
  · rintro ⟨h, -, hwindow, href⟩
    exact ⟨h.schemaVersion_isSemver, h.id_ne, h.actionCode_ne, h.evaluatedAt_nonneg,
      h.subject_wellFormed, hwindow, h.rule_ne, href⟩

/-- What is behind a document that passes the schema and the typed reading. -/
theorem eq_toJson_of_ofJson (hv : v.WellFormed) (hs : Contract.verdict.check v = .ok ())
    (hc : ofJson v = .ok c) : v = c.toJson ∧ c.MeetsSchema ∧ c.FitsInt64 := by
  obtain ⟨c', rfl, hschema, hfits⟩ :=
    VerdictSchema.exists_verdict_of_accepts hv (Contract.check_eq_ok_iff.1 hs) hc
  obtain rfl : c' = c := Except.ok.inj ((ofJson_toJson hfits).symm.trans hc)
  exact ⟨rfl, hschema, hfits⟩

/-- **A document is parsed exactly when it is the document form of a verdict that meets the
contract, and it is parsed to this verdict.** -/
theorem parse_eq_ok_iff (hv : v.WellFormed) :
    parse v = .ok c ↔ v = c.toJson ∧ c.FitsInt64 ∧ c.MeetsContract := by
  rw [parse, bind_unit_eq_ok, mapError_eq_ok, bind_eq_ok]
  simp only [mapError_eq_ok, bind_unit_eq_ok]
  constructor
  · rintro ⟨hs, c', hc, hcheck, h⟩
    obtain rfl : c' = c := Except.ok.inj h
    obtain ⟨rfl, hschema, hfits⟩ := eq_toJson_of_ofJson hv hs hc
    exact ⟨rfl, hfits, meetsContract_iff.2 ⟨hschema, hcheck⟩⟩
  · rintro ⟨rfl, hfits, hcontract⟩
    obtain ⟨hschema, hcheck⟩ := meetsContract_iff.1 hcontract
    exact ⟨Contract.check_eq_ok_iff.2 (VerdictSchema.accepts_verdict_toJson hschema), c,
      ofJson_toJson hfits, hcheck, rfl⟩

/-- **Validation changes nothing.** -/
theorem eq_of_revalidate_eq_ok (h : c.revalidate = .ok c') : c' = c := by
  obtain ⟨-, h⟩ := bind_unit_eq_ok.1 h
  obtain ⟨d, hd, h⟩ := bind_eq_ok.1 h
  obtain ⟨-, h⟩ := bind_unit_eq_ok.1 h
  obtain rfl : d = c' := Except.ok.inj h
  exact eq_of_ofJson_toJson (mapError_eq_ok.1 hd)

theorem check_ne_emptySubject (h : c.subject.isEmpty = false) : c.check ≠ .error .emptySubject := by
  intro he
  rw [check, if_neg (by simp [h])] at he
  split at he
  · exact absurd he (by simp)
  · split at he <;> exact absurd he (by simp)

/-- **No document is refused for a subject without a name**, since the schema refuses it first. -/
theorem parse_ne_emptySubject (hv : v.WellFormed) : parse v ≠ .error .emptySubject := by
  intro h
  rcases bind_eq_error.1 h with h | ⟨_, hs, h⟩
  · obtain ⟨_, -, ⟨⟩⟩ := mapError_eq_error.1 h
  rcases bind_eq_error.1 h with h | ⟨c, hc, h⟩
  · obtain ⟨_, -, ⟨⟩⟩ := mapError_eq_error.1 h
  rcases bind_eq_error.1 h with h | ⟨_, -, ⟨⟩⟩
  have hschema := (eq_toJson_of_ofJson hv (mapError_eq_ok.1 hs) (mapError_eq_ok.1 hc)).2.1
  exact check_ne_emptySubject hschema.subject_wellFormed.isEmpty_eq h

/-- A verdict passes validation exactly when it meets the contract. -/
theorem revalidate_isOk_iff (h : c.FitsInt64) : (∃ d, c.revalidate = .ok d) ↔ c.MeetsContract := by
  constructor
  · rintro ⟨d, hd⟩
    obtain rfl : d = c := eq_of_revalidate_eq_ok hd
    exact ((parse_eq_ok_iff (wellFormed_toJson h)).1 hd).2.2
  · intro hcontract
    exact ⟨c, (parse_eq_ok_iff (wellFormed_toJson h)).2 ⟨rfl, h, hcontract⟩⟩

/-- The check of the reference is the last one, and it fails for bad references only. -/
theorem check_ne_noContentReference
    (href : ∀ text ∈ c.ruleset, text = missingReference ∨ ContentDigest.IsReference text)
    (text : String) : c.check ≠ .error (.noContentReference text) := by
  intro h
  rw [check] at h
  split at h
  · exact absurd h (by simp)
  · split at h
    · exact absurd h (by simp)
    · split at h
      · next found hfound =>
        obtain ⟨hmem, hbad⟩ := Option.filter_eq_some_iff.1 hfound
        have hgood := isRulesetReference_iff.2 (href found hmem)
        exact absurd hbad (by simp [hgood])
      · exact absurd h (by simp)

/-- A verdict with a good reference is not refused for its reference. -/
theorem revalidate_ne_noContentReference
    (href : ∀ text ∈ c.ruleset, text = missingReference ∨ ContentDigest.IsReference text)
    (text : String) : c.revalidate ≠ .error (.noContentReference text) := by
  intro h
  rcases bind_eq_error.1 h with hschema | ⟨_, -, hread⟩
  · obtain ⟨_, -, hbreach⟩ := mapError_eq_error.1 hschema
    exact absurd hbreach (by simp)
  rcases bind_eq_error.1 hread with hmismatch | ⟨read, hread, hchecked⟩
  · obtain ⟨_, -, hbreach⟩ := mapError_eq_error.1 hmismatch
    exact absurd hbreach (by simp)
  have heq : read = c := eq_of_ofJson_toJson (mapError_eq_ok.1 hread)
  rcases bind_eq_error.1 hchecked with hcheck | ⟨_, -, hpure⟩
  · exact check_ne_noContentReference href text (heq ▸ hcheck)
  · exact absurd hpure (by simp [pure, Except.pure])

/-- The version that verdicts are written with has the form of versions. -/
theorem currentSchema_isSemver : IsSemver currentSchema := isVersion_iff.1 (by decide)

/-- **The documents that are parsed are the document forms of the verdicts that meet the contract.**
A verdict that is validated comes back as it was, and an empty subject is refused by the schema
already, so that the check for it never refuses anything. -/
theorem parse_exact (hv : v.WellFormed) :
    (parse v = .ok c ↔ v = c.toJson ∧ c.FitsInt64 ∧ c.MeetsContract) ∧
      (∀ d, c.revalidate = .ok d → d = c) ∧ parse v ≠ .error .emptySubject :=
  ⟨parse_eq_ok_iff hv, fun _ h => eq_of_revalidate_eq_ok h, parse_ne_emptySubject hv⟩

/-- The verdict on entering a place that has no ruleset. -/
def entryVerdict : ControlVerdict :=
  withoutRuleset ⟨"verdict-1", 5⟩ ⟨.ofProjectGroup "P0" "G0", ⟨0, 1000⟩⟩ "AO-ENTER"
    missingReference .missing

theorem entryVerdict_fitsInt64 : entryVerdict.FitsInt64 :=
  ⟨⟨by decide, by decide⟩, ⟨by decide, by decide⟩, ⟨by decide, by decide⟩⟩

theorem entryVerdict_meetsContract : entryVerdict.MeetsContract where
  schemaVersion_isSemver := isVersion_iff.1 (by decide)
  id_ne := by decide
  actionCode_ne := by decide
  evaluatedAt_nonneg := by decide
  subject_wellFormed := ⟨by decide, by decide⟩
  window_wellFormed := by decide
  rule_ne := by decide
  ruleset_isReference := by
    rintro _ ⟨⟩
    exact .inl rfl

theorem parse_entryVerdict :
    entryVerdict.toJson.WellFormed ∧ parse entryVerdict.toJson = .ok entryVerdict :=
  have h := wellFormed_toJson entryVerdict_fitsInt64
  ⟨h, (parse_exact h).1.2 ⟨rfl, entryVerdict_fitsInt64, entryVerdict_meetsContract⟩⟩

end ControlPlane.ControlVerdict
