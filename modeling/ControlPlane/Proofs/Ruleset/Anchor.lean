import ControlPlane.Proofs.Ruleset.Reference

/-!
# Anchors across rulesets

Verdicts of many rulesets end up in one audit, where a rule is known by its anchor alone. An anchor
puts a slash between the id of the ruleset and the id of the rule, and both ids may hold slashes of
their own, which stand in the anchor as they are. So two rules have one anchor when their versions are
equal and their ids, each joined by its slash, make one text: the ids are equal, or the two references
divide that text at different slashes. The anchor of a rule never is the one that stands for a
reference with a part missing.

## Main definitions

* `RuleReference.DividesEarlier` : two references divide one text, the first at an earlier slash.
* `RuleReference.IsAdmitted` : a rule of an admitted ruleset has this reference.
* `Ruleset.relabel` : a ruleset under the id, rule id and version of a reference.

## Main statements

* `RuleReference.anchor_eq_anchor_iff_divides` : which references have one anchor.
* `RuleReference.isAdmitted_standard_iff` : which references rules of admitted rulesets have.
* `RuleReference.anchor_across_rulesets` : what anchors tell of rules of any two admitted rulesets.
-/

namespace ControlPlane

namespace RuleReference

variable {p q : RuleReference}

/-- The ids of `p` and those of `q` make one text, and `p` divides it at an earlier slash: the id of
the ruleset goes on in `q` with what the id of the rule starts with in `p`. -/
def DividesEarlier (p q : RuleReference) : Prop :=
  ∃ between : String, q.ruleset = p.ruleset ++ "/" ++ between ∧ p.rule = between ++ "/" ++ q.rule

private theorem toList_slash (a b : String) :
    (a ++ "/" ++ b).toList = a.toList ++ '/' :: b.toList := by
  simp [String.toList_append]

theorem dividesEarlier_iff : p.DividesEarlier q ↔ ∃ between : List Char,
    q.ruleset.toList = p.ruleset.toList ++ '/' :: between ∧
      p.rule.toList = between ++ '/' :: q.rule.toList := by
  constructor
  · rintro ⟨between, hruleset, hrule⟩
    exact ⟨between.toList, by rw [hruleset, toList_slash], by rw [hrule, toList_slash]⟩
  · rintro ⟨between, hruleset, hrule⟩
    refine ⟨String.ofList between, ?_, ?_⟩
    · rw [← String.toList_inj, hruleset, toList_slash, String.toList_ofList]
    · rw [← String.toList_inj, hrule, toList_slash, String.toList_ofList]

/-- It takes a slash in the id of one ruleset and a slash in the id of the other rule. -/
theorem DividesEarlier.slash_mem (h : p.DividesEarlier q) :
    '/' ∈ p.rule.toList ∧ '/' ∈ q.ruleset.toList := by
  obtain ⟨between, hruleset, hrule⟩ := dividesEarlier_iff.1 h
  rw [hruleset, hrule]
  exact ⟨List.mem_append_right _ List.mem_cons_self, List.mem_append_right _ List.mem_cons_self⟩

/-- The ids of two references, joined by slashes, make one text in these ways only. -/
theorem ids_eq_ids_iff : p.ruleset ++ "/" ++ p.rule = q.ruleset ++ "/" ++ q.rule ↔
    p.ruleset = q.ruleset ∧ p.rule = q.rule ∨ p.DividesEarlier q ∨ q.DividesEarlier p := by
  rw [← String.toList_inj, toList_slash, toList_slash, append_cons_eq_append_cons_iff,
    String.toList_inj, String.toList_inj, dividesEarlier_iff, dividesEarlier_iff]

/-- **Which references have one anchor.** -/
theorem anchor_eq_anchor_iff_divides (hp : p.WellFormed) (hq : q.WellFormed) :
    p.anchor = q.anchor ↔
      p = q ∨ p.version = q.version ∧ (p.DividesEarlier q ∨ q.DividesEarlier p) := by
  have hequal : p = q ↔ p.version = q.version ∧ p.ruleset = q.ruleset ∧ p.rule = q.rule := by
    cases p
    cases q
    simp only [mk.injEq]
    tauto
  rw [anchor_eq_anchor_iff hp hq, ids_eq_ids_iff, hequal]
  tauto

/-- The anchor of a rule holds the sign in front of its version, and the placeholder does not. -/
theorem WellFormed.anchor_ne_unparseable (hp : p.WellFormed) : p.anchor ≠ unparseableAnchor := by
  have hsign : '@' ∈ p.anchor.toList := by
    rw [hp.anchor_eq, text]
    simp [String.toList_append]
  intro h
  rw [h] at hsign
  exact absurd hsign (by decide)

/-! ### References of admitted rulesets -/

/-- A rule of a ruleset that is admitted under the constitution has this reference. -/
def IsAdmitted (c : Constitution) (p : RuleReference) : Prop :=
  ∃ v r, v.WellFormed ∧ Admission.ofJson c v = .ok r ∧ ∃ rule ∈ r.rules, r.reference rule = p

theorem IsAdmitted.wellFormed {c : Constitution} (h : p.IsAdmitted c) : p.WellFormed := by
  obtain ⟨v, r, hv, hadmitted, rule, hrule, rfl⟩ := h
  obtain ⟨-, hr, -⟩ := Admission.eq_toJson_of_ofJson hv hadmitted
  exact hr.reference hrule

end RuleReference

namespace Ruleset

variable {p : RuleReference} {r : Ruleset}

/-- The ruleset under the id of a reference, its rules under the id and the version that the reference
gives to the rule. -/
def relabel (p : RuleReference) (r : Ruleset) : Ruleset :=
  { r with
    id := p.ruleset
    rules := r.rules.map fun rule => { rule with id := p.rule, version := p.version } }

theorem WellFormed.relabel (hr : r.WellFormed) (hp : p.WellFormed) : (r.relabel p).WellFormed :=
  hr.map_rules hp.ruleset_ne fun rule hrule =>
    { hr.rules_wellFormed rule hrule with
      id_ne := hp.rule_ne
      version_isSemver := hp.version_isSemver }

theorem exists_reference_relabel_eq (hr : r.WellFormed) :
    ∃ rule ∈ (r.relabel p).rules, (r.relabel p).reference rule = p := by
  obtain ⟨rule, hrule⟩ := List.exists_mem_of_ne_nil _ hr.rules_ne_nil
  exact ⟨_, List.mem_map_of_mem hrule, rfl⟩

end Ruleset

theorem Admission.WithinReach.relabel {p : RuleReference} {c : Constitution} {r : Ruleset}
    (h : WithinReach c r) : WithinReach c (r.relabel p) :=
  h.map_rules (fun _ => rfl) fun _ => rfl

namespace RuleReference

variable {p q : RuleReference} {c d : Constitution}

/-- **Exactly the well-formed references are those of rules of admitted rulesets.** Of ids admission
asks only that they are not empty, so it keeps no slash out of them. -/
theorem isAdmitted_standard_iff : p.IsAdmitted .standard ↔ p.WellFormed := by
  refine ⟨IsAdmitted.wellFormed, fun hp => ?_⟩
  have hwellFormed := Admission.entryRuleset_wellFormed.relabel hp
  exact ⟨_, _, Ruleset.wellFormed_toJson _,
    Admission.ofJson_toJson hwellFormed Admission.entryRuleset_withinReach.relabel,
    Ruleset.exists_reference_relabel_eq Admission.entryRuleset_wellFormed⟩

/-- **What anchors tell of rules of any two admitted rulesets.** They are equal exactly when the
references are, or when the versions are equal and the references divide one text of ids at different
slashes. So they tell two references apart unless the id of one rule and the id of the other's ruleset
both hold a slash. No rule has the anchor that stands for a reference with a part missing. -/
theorem anchor_across_rulesets (hp : p.IsAdmitted c) (hq : q.IsAdmitted d) :
    (p.anchor = q.anchor ↔
      p = q ∨ p.version = q.version ∧ (p.DividesEarlier q ∨ q.DividesEarlier p)) ∧
    (p.anchor = q.anchor → p ≠ q →
      '/' ∈ p.rule.toList ∧ '/' ∈ q.ruleset.toList ∨ '/' ∈ q.rule.toList ∧ '/' ∈ p.ruleset.toList) ∧
    p.anchor ≠ unparseableAnchor ∧ q.anchor ≠ unparseableAnchor := by
  have hequal := anchor_eq_anchor_iff_divides hp.wellFormed hq.wellFormed
  refine ⟨hequal, fun hanchor hne => ?_, hp.wellFormed.anchor_ne_unparseable,
    hq.wellFormed.anchor_ne_unparseable⟩
  obtain ⟨-, hearlier | hearlier⟩ := (hequal.1 hanchor).resolve_left hne
  · exact .inl hearlier.slash_mem
  · exact .inr hearlier.slash_mem

/-- The signs that anchors are made with stand in the ids of these rules as well. -/
theorem anchor_across_rulesets_duskRules :
    IsAdmitted .standard ⟨"farm", "plot/season@dusk", "1.0.0"⟩ ∧
      IsAdmitted .standard ⟨"farm/plot", "season@dusk", "1.0.0"⟩ ∧
      anchor ⟨"farm", "plot/season@dusk", "1.0.0"⟩ = anchor ⟨"farm/plot", "season@dusk", "1.0.0"⟩ ∧
      anchor ⟨"farm/plot", "season@dusk", "1.0.0"⟩ ≠ unparseableAnchor := by
  have hversion : IsSemver "1.0.0" := isVersion_iff.1 (by decide)
  have hfarm : IsAdmitted .standard ⟨"farm", "plot/season@dusk", "1.0.0"⟩ :=
    isAdmitted_standard_iff.2 ⟨by decide, by decide, hversion⟩
  have hplot : IsAdmitted .standard ⟨"farm/plot", "season@dusk", "1.0.0"⟩ :=
    isAdmitted_standard_iff.2 ⟨by decide, by decide, hversion⟩
  have hearlier : DividesEarlier ⟨"farm", "plot/season@dusk", "1.0.0"⟩
      ⟨"farm/plot", "season@dusk", "1.0.0"⟩ := ⟨"plot", by decide, by decide⟩
  obtain ⟨hequal, -, -, hplaceholder⟩ := anchor_across_rulesets hfarm hplot
  exact ⟨hfarm, hplot, hequal.2 (.inr ⟨rfl, .inl hearlier⟩), hplaceholder⟩

/-- Of two admitted rulesets, one has the anchor of a rule of the other for a rule of its own. -/
theorem anchor_eq_anchor_plotRules :
    IsAdmitted .standard ⟨"farm", "plot/season", "1.0.0"⟩ ∧
      IsAdmitted .standard ⟨"farm/plot", "season", "1.0.0"⟩ ∧
      anchor ⟨"farm", "plot/season", "1.0.0"⟩ = "repo-const-v0:farm/plot/season@1.0.0" ∧
      anchor ⟨"farm/plot", "season", "1.0.0"⟩ = "repo-const-v0:farm/plot/season@1.0.0" ∧
      "farm" ≠ "farm/plot" ∧ "plot/season" ≠ "season" := by
  have hversion : IsSemver "1.0.0" := isVersion_iff.1 (by decide)
  exact ⟨isAdmitted_standard_iff.2 ⟨by decide, by decide, hversion⟩,
    isAdmitted_standard_iff.2 ⟨by decide, by decide, hversion⟩, by decide, by decide, by decide,
    by decide⟩

end RuleReference

end ControlPlane
