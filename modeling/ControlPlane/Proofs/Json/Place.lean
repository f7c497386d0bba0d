import ControlPlane.Json.Path
import ControlPlane.Proofs.Json.Members

/-!
# Exchanging parts of a value

A part of a value is exchanged by going down to its place and putting another value there. What lies
beside the way down stays as it is, and so does a value that has no part at the place.

## Main definitions

* `Members.erase` : members without that of a key.
* `Json.replaceStep`, `Json.replaceAt` : a value with another part one step down, or at a place.

## Main statements

* `Members.mem_keys_insert_iff`, `Members.mem_keys_erase_iff` : the keys after a member was put in or
  taken out.
* `Json.at?_replaceAt` : what was put at a place is found there.
-/

namespace ControlPlane

namespace Members

variable {key other : String} {value : Json} {members : Members}

/-- The members without that of a key. -/
def erase (key : String) (members : Members) : Members := members.filter fun m => m.1 != key

theorem get?_erase :
    get? (erase key members) other = if other = key then none else get? members other := by
  induction members with
  | nil => simp [erase]
  | cons m rest ih =>
    rw [erase, List.filter_cons, ← erase, get?_cons]
    by_cases hm : m.1 = key
    · rw [if_neg (by simp [hm]), ih, hm]
      split <;> simp_all [eq_comm]
    · rw [if_pos (by simp [hm]), get?_cons, ih]
      split <;> simp_all

theorem mem_keys_erase_iff :
    other ∈ keys (erase key members) ↔ other ≠ key ∧ other ∈ keys members := by
  simp only [mem_keys_iff, get?_erase]
  split <;> simp_all

theorem mem_keys_insert_iff :
    other ∈ keys (insert key value members) ↔ other = key ∨ other ∈ keys members := by
  simp only [mem_keys_iff, get?_insert]
  split <;> simp_all [eq_comm]

end Members

namespace Json

variable {v w part : Json} {step : Step} {path rest : Path}

theorem at?_cons : v.at? (step :: rest) = (v.step? step).bind fun part => part.at? rest := rfl

/-- A value with another part one step down. -/
def replaceStep (v : Json) (step : Step) (w : Json) : Json :=
  match v, step with
  | .object members, .key name => .object (Members.insert name w members)
  | .array items, .index position => .array (items.set position w)
  | v, _ => v

/-- A value with another part at a place. -/
def replaceAt (v : Json) (path : Path) (w : Json) : Json :=
  match path with
  | [] => w
  | step :: rest =>
    match v.step? step with
    | some part => v.replaceStep step (part.replaceAt rest w)
    | none => v

/-- A step leads down from an object by one of its keys, or from an array by an index. -/
theorem step?_eq_some_iff : v.step? step = some part ↔
    (∃ members name, v = .object members ∧ step = .key name ∧
      Members.get? members name = some part) ∨
    ∃ items position, v = .array items ∧ step = .index position ∧ items[position]? = some part := by
  cases v <;> cases step <;> simp [step?]

theorem step?_replaceStep (h : v.step? step = some part) :
    (v.replaceStep step w).step? step = some w := by
  obtain ⟨members, name, rfl, rfl, -⟩ | ⟨items, position, rfl, rfl, hpart⟩ := step?_eq_some_iff.1 h
  · rw [replaceStep, step?, Members.get?_insert, if_pos rfl]
  · rw [replaceStep, step?]
    exact List.getElem?_set_self (List.getElem?_eq_some_iff.1 hpart).1

/-- **What was put at a place is found there.** -/
theorem at?_replaceAt (h : v.at? path = some part) : (v.replaceAt path w).at? path = some w := by
  induction path generalizing v with
  | nil => rfl
  | cons step rest ih =>
    obtain ⟨next, hnext, hrest⟩ := Option.bind_eq_some_iff.1 h
    simp only [replaceAt, hnext]
    rw [at?_cons, step?_replaceStep hnext]
    exact ih hrest

end Json

end ControlPlane
