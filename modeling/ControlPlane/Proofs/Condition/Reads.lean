import ControlPlane.Proofs.Condition.Tree
import ControlPlane.Proofs.Decision

/-!
# What rules read

A condition looks at the paths that are written in it and, if it compares windows, at the bounds of
the two windows. A ruleset looks at no more than its conditions do, and at the actions on offer.
Snapshots that agree there lead to the same decision.

## Main definitions

* `Snapshot.AgreeOn` : two snapshots give the same for certain paths.
* `Snapshot.windowPaths` : the bounds of the two windows.

## Main statements

* `Condition.holds_congr` : a condition depends on what it reads only.
* `Ruleset.evaluate_congr` : a decision depends on what the conditions read and on the actions on
  offer.
-/

namespace ControlPlane

namespace Snapshot

variable {s t : Snapshot} {path : String}

/-- Two snapshots give the same for these paths. -/
def AgreeOn (paths : List String) (s t : Snapshot) : Prop :=
  ∀ path ∈ paths, s.get? path = t.get? path

/-- The bounds of the subject's window and of the permitted one. -/
def windowPaths : List String := [subjectStart, subjectEnd, permittedStart, permittedEnd]

theorem bound_congr (h : s.get? path = t.get? path) : s.bound path = t.bound path := by
  rw [bound, bound, h]

theorem text?_congr (h : s.get? path = t.get? path) : s.text? path = t.text? path := by
  rw [text?, text?, h]

theorem texts_congr (h : s.get? path = t.get? path) : s.texts path = t.texts path := by
  rw [texts, texts, h]

theorem windowsAgree_congr (h : AgreeOn windowPaths s t) : s.windowsAgree = t.windowsAgree := by
  have hbound : ∀ path ∈ windowPaths, s.bound path = t.bound path :=
    fun path hpath => bound_congr (h path hpath)
  simp only [windowPaths, List.forall_mem_cons] at hbound
  obtain ⟨hss, hse, hps, hpe, -⟩ := hbound
  rw [windowsAgree, windowsAgree, hss, hse, hps, hpe]

end Snapshot

namespace Condition

variable {s t : Snapshot}

mutual

/-- **A condition depends on the paths written in it only, and on the bounds of the windows if it
compares windows at some depth.** -/
theorem holds_congr : (c : Condition) → Snapshot.AgreeOn c.paths s t →
    (IsPart .windowMatch c → Snapshot.AgreeOn Snapshot.windowPaths s t) → holds s c = holds t c
  | .fieldEq path value, h, _ => by
    rw [holds, holds, Snapshot.text?_congr (h path (by simp [paths]))]
  | .fieldIn path values, h, _ => by
    rw [holds, holds, Snapshot.text?_congr (h path (by simp [paths]))]
  | .fieldExists path, h, _ => by rw [holds, holds, h path (by simp [paths])]
  | .setIntersects path values, h, _ => by
    rw [holds, holds, Snapshot.texts_congr (h path (by simp [paths]))]
  | .windowMatch, _, hw => by rw [holds, holds, Snapshot.windowsAgree_congr (hw .whole)]
  | .all children, h, hw => by
    rw [paths] at h
    rw [holds, holds, allHold_congr children h fun c hc hpart => hw (.all hc hpart)]
  | .any children, h, hw => by
    rw [paths] at h
    rw [holds, holds, anyHolds_congr children h fun c hc hpart => hw (.any hc hpart)]
  | .not child, h, hw => by
    rw [paths] at h
    rw [holds, holds, holds_congr child h fun hpart => hw (.not hpart)]

theorem allHold_congr : (children : List Condition) → Snapshot.AgreeOn (pathsOfList children) s t →
    (∀ c ∈ children, IsPart .windowMatch c → Snapshot.AgreeOn Snapshot.windowPaths s t) →
      allHold s children = allHold t children
  | [], _, _ => rfl
  | c :: rest, h, hw => by
    rw [pathsOfList, Snapshot.AgreeOn, List.forall_mem_append] at h
    obtain ⟨hwc, hwrest⟩ := List.forall_mem_cons.1 hw
    rw [allHold, allHold, holds_congr c h.1 hwc, allHold_congr rest h.2 hwrest]

theorem anyHolds_congr : (children : List Condition) →
    Snapshot.AgreeOn (pathsOfList children) s t →
    (∀ c ∈ children, IsPart .windowMatch c → Snapshot.AgreeOn Snapshot.windowPaths s t) →
      anyHolds s children = anyHolds t children
  | [], _, _ => rfl
  | c :: rest, h, hw => by
    rw [pathsOfList, Snapshot.AgreeOn, List.forall_mem_append] at h
    obtain ⟨hwc, hwrest⟩ := List.forall_mem_cons.1 hw
    rw [anyHolds, anyHolds, holds_congr c h.1 hwc, anyHolds_congr rest h.2 hwrest]

end

end Condition

namespace Ruleset

variable {s t : Snapshot} {rules : List Rule} {r : Ruleset}

theorem firstMatch?_congr
    (h : ∀ rule ∈ rules, rule.condition.holds s = rule.condition.holds t) :
    firstMatch? s rules = firstMatch? t rules := by
  induction rules with
  | nil => rfl
  | cons rule rest ih =>
    obtain ⟨hrule, hrest⟩ := List.forall_mem_cons.1 h
    rw [firstMatch?, firstMatch?, hrule, ih hrest]

theorem denyOverrides?_congr {allowing : Option Rule}
    (h : ∀ rule ∈ rules, rule.condition.holds s = rule.condition.holds t) :
    denyOverrides? s allowing rules = denyOverrides? t allowing rules := by
  induction rules generalizing allowing with
  | nil => rfl
  | cons rule rest ih =>
    obtain ⟨hrule, hrest⟩ := List.forall_mem_cons.1 h
    rw [denyOverrides?, denyOverrides?, hrule]
    simp only [ih hrest]

theorem decision_congr (h : ∀ rule ∈ r.rules, rule.condition.holds s = rule.condition.holds t) :
    r.decision s = r.decision t := by
  have hdeciding : r.decidingRule? s = r.decidingRule? t := by
    rw [decidingRule?, decidingRule?, firstMatch?_congr h, denyOverrides?_congr h]
  rw [decision, decision, hdeciding]

theorem evaluate_eq_of_decision_eq (hcandidates : s.get? candidateActions = t.get? candidateActions)
    (h : r.decision s = r.decision t) : r.evaluate s = r.evaluate t := by
  rw [evaluate, evaluate, checkPermission, checkPermission, Snapshot.texts_congr hcandidates, h]

/-- **A decision depends on what the conditions read and on the actions on offer only.** -/
theorem evaluate_congr (hcandidates : s.get? candidateActions = t.get? candidateActions)
    (hwindows : Snapshot.AgreeOn Snapshot.windowPaths s t)
    (hpaths : ∀ rule ∈ r.rules, Snapshot.AgreeOn rule.condition.paths s t) :
    r.evaluate s = r.evaluate t :=
  evaluate_eq_of_decision_eq hcandidates <| decision_congr fun rule hrule =>
    rule.condition.holds_congr (hpaths rule hrule) fun _ => hwindows

end Ruleset

end ControlPlane
