import ControlPlane.Proofs.Decision

/-!
# What the strategies choose

Which rule decides is said here of the rules that fire, in their order, and without a pass over them:
under the first match it is the first one, whatever it stands for, and where denial wins it is the
first that denies, or else the first that allows. If there is none, nothing is determined.

## Main definitions

* `Ruleset.firing` : the rules that fire.
* `CombineStrategy.Chooses` : what a strategy chooses among the rules that fire.

## Main statements

* `CombineStrategy.chooses_iff` : a strategy chooses in one way.
* `Ruleset.decision_eq_iff_chooses` : a decision is what the strategy chooses.
-/

namespace ControlPlane

namespace CombineStrategy

variable {strategy : CombineStrategy} {firing : List Rule} {chosen : Option Rule}

/-- What a strategy chooses among the rules that fire. -/
inductive Chooses : CombineStrategy → List Rule → Option Rule → Prop
  /-- The first rule that fires wins. -/
  | first (rule : Rule) (rest : List Rule) : Chooses .firstMatch (rule :: rest) (some rule)
  /-- No rule fires. -/
  | noneFires : Chooses .firstMatch [] none
  /-- The first rule that denies wins. -/
  | deny {before after : List Rule} {rule : Rule} (hrule : rule.verdict = .deny)
      (hbefore : ∀ other ∈ before, other.verdict ≠ .deny) :
      Chooses .denyOverrides (before ++ rule :: after) (some rule)
  /-- No rule denies, and the first rule that allows wins. -/
  | allow {before after : List Rule} {rule : Rule} (hrule : rule.verdict = .allow)
      (hbefore : ∀ other ∈ before, other.verdict ≠ .allow)
      (hdeny : ∀ other ∈ before ++ rule :: after, other.verdict ≠ .deny) :
      Chooses .denyOverrides (before ++ rule :: after) (some rule)
  /-- No rule denies or allows. -/
  | undetermined {firing : List Rule} (h : ∀ rule ∈ firing, rule.verdict = .undetermined) :
      Chooses .denyOverrides firing none

/-- The first of some rules that stands for a verdict. -/
def first? (d : Verdict) (rules : List Rule) : Option Rule :=
  rules.find? fun rule => decide (rule.verdict = d)

/-- What a strategy chooses, by searches. -/
def choice? : CombineStrategy → List Rule → Option Rule
  | .firstMatch, firing => firing.head?
  | .denyOverrides, firing => (first? .deny firing).or (first? .allow firing)

theorem first?_eq_some_iff {d : Verdict} {rule : Rule} :
    first? d firing = some rule ↔ rule.verdict = d ∧
      ∃ before after, firing = before ++ rule :: after ∧
        ∀ other ∈ before, other.verdict ≠ d := by
  simp [first?, List.find?_eq_some_iff_append]

theorem first?_eq_none_iff {d : Verdict} :
    first? d firing = none ↔ ∀ rule ∈ firing, rule.verdict ≠ d := by
  simp [first?]

theorem chooses_choice? : Chooses strategy firing (choice? strategy firing) := by
  cases strategy with
  | firstMatch =>
    cases firing with
    | nil => exact .noneFires
    | cons rule rest => exact .first rule rest
  | denyOverrides =>
    rw [choice?]
    cases hdeny : first? .deny firing with
    | some rule =>
      obtain ⟨hrule, before, after, rfl, hbefore⟩ := first?_eq_some_iff.1 hdeny
      exact .deny hrule hbefore
    | none =>
      rw [first?_eq_none_iff] at hdeny
      cases hallow : first? .allow firing with
      | some rule =>
        obtain ⟨hrule, before, after, rfl, hbefore⟩ := first?_eq_some_iff.1 hallow
        exact .allow hrule hbefore hdeny
      | none =>
        rw [first?_eq_none_iff] at hallow
        refine .undetermined fun rule hrule => ?_
        cases hv : rule.verdict with
        | undetermined => rfl
        | deny => exact absurd hv (hdeny rule hrule)
        | allow => exact absurd hv (hallow rule hrule)

theorem choice?_eq_of_chooses (h : Chooses strategy firing chosen) :
    choice? strategy firing = chosen := by
  cases h with
  | first | noneFires => rfl
  | deny hrule hbefore =>
    rw [choice?, first?_eq_some_iff.2 ⟨hrule, _, _, rfl, hbefore⟩, Option.some_or]
  | allow hrule hbefore hdeny =>
    rw [choice?, first?_eq_none_iff.2 hdeny, Option.none_or]
    exact first?_eq_some_iff.2 ⟨hrule, _, _, rfl, hbefore⟩
  | undetermined h =>
    have hnone {d : Verdict} (hd : d ≠ .undetermined) : first? d firing = none :=
      first?_eq_none_iff.2 fun rule hrule heq => hd (heq.symm.trans (h rule hrule))
    rw [choice?, hnone (by decide), hnone (by decide), Option.none_or]

/-- **A strategy chooses in one way.** -/
theorem chooses_iff : Chooses strategy firing chosen ↔ choice? strategy firing = chosen :=
  ⟨choice?_eq_of_chooses, fun h => h ▸ chooses_choice?⟩

end CombineStrategy

namespace Ruleset

open CombineStrategy

variable {r : Ruleset} {s : Snapshot} {rule : Rule}

/-- The rules that fire, in their order. -/
def firing (r : Ruleset) (s : Snapshot) : List Rule :=
  r.rules.filter fun rule => rule.condition.holds s

theorem find?_votes {d : Verdict} : r.rules.find? (votes s d) = first? d (r.firing s) := by
  rw [first?, firing, List.find?_filter]
  congr 1
  funext rule
  simp [votes]

theorem decidingRule?_eq_choice? : r.decidingRule? s = choice? r.strategy (r.firing s) := by
  rw [decidingRule?]
  cases r.strategy with
  | firstMatch => rw [choice?, firing, List.head?_filter, firstMatch?_eq_find?]
  | denyOverrides =>
    rw [choice?, denyOverrides?_eq_find?, find?_votes, find?_votes, Option.none_or]

/-- **A decision is exactly what the strategy chooses among the rules that fire.** It is the verdict of
the chosen rule with a reference to it; if no rule is chosen, nothing is determined. -/
theorem decision_eq_iff_chooses {d : Decision} :
    r.decision s = d ↔ ∃ chosen, Chooses r.strategy (r.firing s) chosen ∧
      d = match chosen with
        | some rule => ⟨rule.verdict, some (r.reference rule)⟩
        | none => ⟨.undetermined, none⟩ := by
  have hchosen : ∀ chosen, Chooses r.strategy (r.firing s) chosen ↔ r.decidingRule? s = chosen :=
    fun chosen => by rw [chooses_iff, decidingRule?_eq_choice?]
  simp only [hchosen, exists_eq_left']
  exact eq_comm

end Ruleset

end ControlPlane
