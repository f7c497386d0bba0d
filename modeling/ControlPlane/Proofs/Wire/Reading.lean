import ControlPlane.Proofs.Json.Members
import ControlPlane.Proofs.Sequencing
import ControlPlane.Wire.OfJson

/-!
# Typed reading

What the readers of variants, lists and records give on the values that writers make, and what a
successful reading of a record says about the members that it has read.

## Main definitions

* `Wire.OfJson.FitsInt64` : the integers that are read as 64 bits.

## Main statements

* `Wire.OfJson.choice_string`, `Wire.OfJson.items_map` : names and lists are read back.
* `Wire.OfJson.record_object_eq_ok` : a record is read member by member.
* `Wire.OfJson.exists_store_eq_ok` : of a record that was read, every member was readable.
-/

namespace ControlPlane.Wire.OfJson

variable {α β : Type}

theorem choice_string {variants : List α} {name : α → String} {a : α}
    (h : (variants.find? fun b => name b == name a) = some a) :
    choice variants name (.string (name a)) = .ok a := by
  simp only [choice, h]

/-- An integer of 64 bits with a sign. -/
def FitsInt64 (n : Int) : Prop := leastInt64 ≤ n ∧ n < int64Bound

theorem FitsInt64.wellFormed {n : Int} (h : FitsInt64 n) : (Json.integer n).WellFormed := by
  rw [FitsInt64, leastInt64, int64Bound] at h
  rw [Json.WellFormed, Json.leastInteger, Json.integerBound]
  omega

theorem FitsInt64.natAbs_le {n : Int} (h : FitsInt64 n) : n.natAbs ≤ 2 ^ 63 := by
  rw [FitsInt64, leastInt64, int64Bound] at h
  omega

theorem int64_integer {n : Int} (h : FitsInt64 n) : int64 (.integer n) = .ok n := by
  rw [int64]
  exact if_pos h

theorem int64_eq_ok {v : Json} {n : Int} (h : int64 v = .ok n) : v = .integer n ∧ FitsInt64 n := by
  cases v with
  | integer m =>
    rw [int64] at h
    split at h
    · next hm =>
      obtain rfl : m = n := Except.ok.inj h
      exact ⟨rfl, hm⟩
    · exact absurd h (by simp)
  | _ => exact absurd h (by simp [int64, wrongType])

theorem itemList_map {item : OfJson α} {write : α → Json} {xs : List α}
    (h : ∀ x ∈ xs, item (write x) = .ok x) : itemList item (xs.map write) = .ok xs := by
  induction xs with
  | nil => rfl
  | cons x rest ih =>
    obtain ⟨hx, hr⟩ := List.forall_mem_cons.1 h
    rw [List.map_cons, itemList, hx, ih hr]
    rfl

theorem items_map {item : OfJson α} {write : α → Json} {xs : List α}
    (h : ∀ x ∈ xs, item (write x) = .ok x) : items item (.array (xs.map write)) = .ok xs :=
  itemList_map h

theorem items_texts (texts : List String) :
    items text (.array (texts.map .string)) = .ok texts :=
  items_map fun _ _ => rfl

/-! ### Records -/

variable {r : Record OfJson α} {members : Members}

theorem takeMembers_cons {key : String} {v : Json} {f : Field OfJson α} {value value' : α}
    {seen : List String} (hf : r.field? key = some f) (hv : f.store value v = .ok value') :
    takeMembers r ((key, v) :: members) value seen = takeMembers r members value' (key :: seen) := by
  rw [takeMembers]
  simp only [hf, hv]
  rfl

/-- A field that may be absent is read where it is present. -/
theorem takeMembers_present {key : String} {o : Option β} {write : β → Json}
    {fields : List (String × Option Json)} {f : Field OfJson α} {value : α} {seen : List String}
    (store : Option β → α) (hf : r.field? key = some f) (hnone : store none = value)
    (hv : ∀ b ∈ o, f.store value (write b) = .ok (store (some b))) :
    takeMembers r (Members.present ((key, o.map write) :: fields)) value seen =
      takeMembers r (Members.present fields) (store o) (o.elim seen fun _ => key :: seen) := by
  cases o with
  | none => rw [hnone]; rfl
  | some b => exact takeMembers_cons hf (hv b rfl)

theorem record_object_eq_ok {value : α} {seen : List String}
    (h : takeMembers r members r.blank [] = .ok (value, seen)) (hm : r.missing? seen = none) :
    record r (.object members) = .ok value := by
  rw [record, h]
  simp only [bind, Except.bind, hm]
  rfl

theorem exists_store_of_takeMembers {value : α} {seen : List String} {p : α × List String}
    (h : takeMembers r members value seen = .ok p) {key : String} {v : Json} {f : Field OfJson α}
    (hm : (key, v) ∈ members) (hf : r.field? key = some f) : ∃ a b, f.store a v = .ok b := by
  induction members generalizing value seen with
  | nil => exact absurd hm (by simp)
  | cons m rest ih =>
    rcases List.mem_cons.1 hm with rfl | hr
    · rw [takeMembers, hf] at h
      obtain ⟨b, hb, -⟩ := bind_eq_ok.1 h
      exact ⟨value, b, hb⟩
    · rw [takeMembers] at h
      split at h
      · obtain ⟨b, -, hb⟩ := bind_eq_ok.1 h
        exact ih hb hr
      · split at h
        · exact absurd h (by simp)
        · exact ih h hr

/-- Of a record that was read from members, the value of every field was readable. -/
theorem exists_store_eq_ok {a : α} (h : record r (.object members) = .ok a) {key : String} {v : Json}
    {f : Field OfJson α} (hv : Members.get? members key = some v) (hf : r.field? key = some f) :
    ∃ a b, f.store a v = .ok b := by
  obtain ⟨p, hp, -⟩ := bind_eq_ok.1 h
  exact exists_store_of_takeMembers hp (Members.mem_of_get? hv) hf

end ControlPlane.Wire.OfJson
