import ControlPlane.Decision
import ControlPlane.Proofs.Json.Members
import ControlPlane.Proofs.Sequencing

/-!
# Which rule decides

Both strategies make one pass over the rules. What the pass finds is described here by searches: under
the first match the first rule that holds, under denial the first rule that holds and denies, and if
there is none the first that holds and allows.

## Main statements

* `Ruleset.firstMatch?_eq_find?`, `Ruleset.denyOverrides?_eq_find?` : the two passes as searches.
* `Ruleset.decidingRule?_holds` : a rule that decides holds.
* `Ruleset.not_holds_of_allow` : where denial wins, nothing is allowed against a rule that denies.
* `Ruleset.checkPermission_eq_ok_iff` : which actions are on offer.
-/

namespace ControlPlane.Ruleset

variable {s : Snapshot} {rules : List Rule} {rule : Rule} {r : Ruleset}

/-- The rule holds and stands for the verdict. -/
def votes (s : Snapshot) (d : Verdict) (rule : Rule) : Bool :=
  rule.condition.holds s && decide (rule.verdict = d)

theorem votes_iff {d : Verdict} :
    votes s d rule = true ↔ rule.condition.holds s = true ∧ rule.verdict = d := by
  rw [votes, Bool.and_eq_true, decide_eq_true_eq]

theorem firstMatch?_eq_find? :
    firstMatch? s rules = rules.find? fun rule => rule.condition.holds s := by
  induction rules with
  | nil => rfl
  | cons rule rest ih =>
    rw [firstMatch?, List.find?_cons, ih]
    cases rule.condition.holds s <;> rfl

/-- **Where denial wins, the rule that decides is the first that holds and denies, or else the first
that holds and allows.** -/
theorem denyOverrides?_eq_find? {allowing : Option Rule} :
    denyOverrides? s allowing rules =
      (rules.find? (votes s .deny)).or (allowing.or (rules.find? (votes s .allow))) := by
  induction rules generalizing allowing with
  | nil => simp [denyOverrides?]
  | cons rule rest ih =>
    rw [denyOverrides?, List.find?_cons, List.find?_cons]
    by_cases hh : rule.condition.holds s = true
    · rw [if_pos hh]
      cases hv : rule.verdict with
      | deny => simp [votes, hh, hv]
      | allow => simp [votes, hh, hv, ih]
      | undetermined => simp [votes, hh, hv, ih]
    · rw [if_neg hh]
      simp [votes, hh, ih]

/-- A rule that decides is one of the rules, and it holds. -/
theorem decidingRule?_holds (h : r.decidingRule? s = some rule) :
    rule ∈ r.rules ∧ rule.condition.holds s = true := by
  unfold decidingRule? at h
  split at h
  · rw [firstMatch?_eq_find?] at h
    exact ⟨List.mem_of_find?_eq_some h, by simpa using List.find?_some h⟩
  · rw [denyOverrides?_eq_find?, Option.none_or, Option.or_eq_some_iff] at h
    rcases h with h | ⟨-, h⟩
    · exact ⟨List.mem_of_find?_eq_some h, (votes_iff.1 (List.find?_some h)).1⟩
    · exact ⟨List.mem_of_find?_eq_some h, (votes_iff.1 (List.find?_some h)).1⟩

/-- **Where denial wins, nothing is allowed against a rule that holds and denies.** -/
theorem not_holds_of_allow (hs : r.strategy = .denyOverrides) (h : r.decidingRule? s = some rule)
    (ha : rule.verdict = .allow) {d : Rule} (hd : d ∈ r.rules) (hdeny : d.verdict = .deny) :
    d.condition.holds s = false := by
  rw [decidingRule?, hs] at h
  simp only at h
  rw [denyOverrides?_eq_find?, Option.none_or, Option.or_eq_some_iff] at h
  rcases h with h | ⟨hnone, -⟩
  · have hv := (votes_iff.1 (List.find?_some h)).2
    exact absurd (ha.symm.trans hv) (by decide)
  · rw [← Bool.not_eq_true]
    exact fun hh => List.find?_eq_none.1 hnone d hd (votes_iff.2 ⟨hh, hdeny⟩)

/-! ### Actions on offer -/

theorem mem_texts_iff {path text : String} :
    text ∈ s.texts path ↔ ∃ items, s.get? path = some (.array items) ∧ .string text ∈ items := by
  cases h : s.get? path with
  | none => simp [Snapshot.texts, h]
  | some v => cases v <;> simp [Snapshot.texts, h, Json.items?, Json.text?_eq_some_iff]

theorem checkPermission_eq_ok_iff :
    r.checkPermission s = .ok () ↔
      ∃ items, s.get? candidateActions = some (.array items) ∧ .string r.actionCode ∈ items := by
  rw [checkPermission, ← mem_texts_iff]
  split <;> simp_all

theorem evaluate_eq_ok_iff {d : Decision} :
    r.evaluate s = .ok d ↔ r.checkPermission s = .ok () ∧ r.decision s = d := by
  rw [evaluate, bind_unit_eq_ok]
  exact and_congr_right fun _ => ⟨Except.ok.inj, fun h => congrArg _ h⟩

end ControlPlane.Ruleset
