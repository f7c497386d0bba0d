import ControlPlane.Proofs.Json.Members
import ControlPlane.Schema.Contract

/-!
# What schemas accept

Validation reports nothing exactly when the value is accepted, and for each constraint the accepted
values are described by their form. For closed objects the description goes by look-ups, so that it
does not depend on how the members are stored.

## Main statements

* `Constraint.violations_eq_nil_iff` : the report is empty exactly for accepted values.
* `Constraint.accepts_constant_iff`, `Constraint.accepts_text_iff`, … : the accepted values of each
  constraint.
* `Constraint.accepts_record_iff`, `Constraint.accepts_shape_iff` : the accepted objects, by their
  look-ups.
* `Constraint.accepts_oneOf_iff` : of alternatives that exclude each other some has to accept.
-/

namespace ControlPlane

namespace RecordShape

variable {δ : Type} {shape : RecordShape δ} {members : Members}

theorem unexpected_eq_nil_iff :
    shape.unexpected members = [] ↔ ∀ key ∈ members.keys, (shape.property? key).isSome := by
  simp [unexpected, List.filter_eq_nil_iff, Option.isSome_iff_ne_none]

theorem missing_eq_nil_iff :
    shape.missing members = [] ↔ ∀ key ∈ shape.required, key ∈ members.keys := by
  simp [missing, List.filter_eq_nil_iff]

theorem mem_of_property? {key : String} {s : Schema δ} (h : shape.property? key = some s) :
    (key, s) ∈ shape.properties := by
  obtain ⟨p, hp, rfl⟩ := Option.map_eq_some_iff.1 h
  have hk : p.1 = key := by simpa using List.find?_some hp
  exact hk ▸ List.mem_of_find?_eq_some hp

private theorem find?_key_of_mem {α : Type} {l : List (String × α)}
    (hn : l.Pairwise fun p q => p.1 ≠ q.1) {p : String × α} (h : p ∈ l) :
    (l.find? fun q => q.1 == p.1) = some p := by
  induction l with
  | nil => exact absurd h (by simp)
  | cons q rest ih =>
    rcases List.mem_cons.1 h with rfl | hr
    · simp
    · have hne : (q.1 == p.1) = false := by simpa using List.rel_of_pairwise_cons hn hr
      rw [List.find?_cons, hne]
      exact ih hn.of_cons hr

theorem property?_of_mem (hn : shape.properties.Pairwise fun p q => p.1 ≠ q.1)
    {p : String × Schema δ} (h : p ∈ shape.properties) : shape.property? p.1 = some p.2 := by
  rw [property?, find?_key_of_mem hn h, Option.map_some]

end RecordShape

namespace Constraint

variable {δ : Type} {definitions : δ → Constraint δ}

theorem acceptsItems_iff {items : List Json} {c : Constraint δ} :
    acceptsItems definitions items c = true ↔ ∀ v ∈ items, accepts definitions v c = true := by
  induction items with
  | nil => simp [acceptsItems]
  | cons v rest ih => simp [acceptsItems, ih]

theorem acceptsMembers_iff {members : Members} {shape : RecordShape δ} :
    acceptsMembers definitions members shape = true ↔ ∀ m ∈ members, ∀ s,
      shape.property? m.1 = some s → accepts definitions m.2 (s.resolve definitions) = true := by
  induction members with
  | nil => simp [acceptsMembers]
  | cons m rest ih =>
    rw [acceptsMembers, Bool.and_eq_true, ih, List.forall_mem_cons]
    cases h : shape.property? m.1 <;> simp

/-! ### The report -/

theorem here_eq_nil_iff {complaints : List Complaint} :
    here complaints = [] ↔ complaints.isEmpty = true := by
  simp [here]

theorem violations_oneOf_eq_nil_iff {v : Json} {alternatives : List (RecordShape δ)} :
    violations definitions v (.oneOf alternatives) = [] ↔
      accepts definitions v (.oneOf alternatives) = true := by
  rw [violations]
  split
  · next h => simp [h]
  · next h => simp [here, h]

mutual

/-- **Validation reports nothing exactly when the value is accepted.** -/
theorem violations_eq_nil_iff : (v : Json) → (c : Constraint δ) →
    (violations definitions v c = [] ↔ accepts definitions v c = true)
  | .array items, c => by
    cases c with
    | list least s =>
      rw [violations, accepts, List.append_eq_nil_iff, Bool.and_eq_true, here_eq_nil_iff,
        itemViolations_eq_nil_iff, and_comm]
    | oneOf alternatives => exact violations_oneOf_eq_nil_iff
    | _ => simp [violations, accepts, here]
  | .object members, c => by
    cases c with
    | record shape =>
      rw [violations, accepts, List.append_eq_nil_iff, Bool.and_eq_true, here_eq_nil_iff,
        memberViolations_eq_nil_iff, and_comm]
    | oneOf alternatives => exact violations_oneOf_eq_nil_iff
    | _ => simp [violations, accepts, here]
  | .null, c | .bool _, c | .integer _, c | .float _, c | .string _, c => by
    cases c <;> simp [violations, accepts, here]

theorem itemViolations_eq_nil_iff (index : Nat) : (items : List Json) → (s : Schema δ) →
    (itemViolations definitions index items s = [] ↔
      acceptsItems definitions items (s.resolve definitions) = true)
  | [], s => by simp [itemViolations, acceptsItems]
  | v :: rest, s => by
    rw [itemViolations, acceptsItems, List.append_eq_nil_iff, Bool.and_eq_true,
      List.map_eq_nil_iff, violations_eq_nil_iff v, itemViolations_eq_nil_iff (index + 1) rest]

theorem memberViolations_eq_nil_iff : (members : List (String × Json)) → (shape : RecordShape δ) →
    (memberViolations definitions members shape = [] ↔
      acceptsMembers definitions members shape = true)
  | [], shape => by simp [memberViolations, acceptsMembers]
  | (k, v) :: rest, shape => by
    rw [memberViolations, acceptsMembers, List.append_eq_nil_iff, Bool.and_eq_true,
      memberViolations_eq_nil_iff rest]
    cases shape.property? k with
    | none => simp
    | some s => simp [violations_eq_nil_iff v]

end

end Constraint

/-- A document passes a contract when its schema accepts it. -/
theorem Contract.check_eq_ok_iff {c : Contract} {v : Json} :
    c.check v = .ok () ↔ match c with
      | .ruleset => Constraint.accepts RulesetSchema.definitions v RulesetSchema.root = true
      | .verdict => Constraint.accepts Empty.elim v VerdictSchema.root = true := by
  have hnil : c.check v = .ok () ↔ c.violations v = [] := by
    rw [check]
    split <;> simp_all
  rw [hnil]
  cases c
  · exact Constraint.violations_eq_nil_iff v _
  · exact Constraint.violations_eq_nil_iff v _

namespace Constraint

variable {δ : Type} {definitions : δ → Constraint δ}

/-! ### The accepted values of each constraint -/

theorem accepts_constant_iff {v : Json} {text : String} :
    accepts definitions v (.constant text) = true ↔ v = .string text := by
  cases v <;> simp [accepts, complaints]

theorem accepts_enumeration_iff {v : Json} {texts : List String} :
    accepts definitions v (.enumeration texts) = true ↔ ∃ s ∈ texts, v = .string s := by
  cases v <;> simp [accepts, complaints]

theorem accepts_variants_iff {α : Type} {variants : List α} {text : α → String} {v : Json}
    (h : ∀ a, a ∈ variants) :
    accepts definitions v (.enumeration (variants.map text)) = true ↔ ∃ a, v = .string (text a) := by
  rw [accepts_enumeration_iff]
  constructor
  · rintro ⟨_, hs, rfl⟩
    obtain ⟨a, -, rfl⟩ := List.mem_map.1 hs
    exact ⟨a, rfl⟩
  · rintro ⟨a, rfl⟩
    exact ⟨_, List.mem_map_of_mem (h a), rfl⟩

theorem accepts_text_iff {v : Json} {least : Nat} :
    accepts definitions v (.text least) = true ↔ ∃ s, v = .string s ∧ least ≤ s.length := by
  cases v <;> simp [accepts, complaints]

theorem accepts_filled_iff {v : Json} :
    accepts definitions v (.text 1) = true ↔ ∃ s, v = .string s ∧ s ≠ "" := by
  have hlen (s : String) : 1 ≤ s.length ↔ s ≠ "" := by
    rw [Nat.one_le_iff_ne_zero, ne_eq, String.length_eq_zero_iff]
  simp only [accepts_text_iff, hlen]

theorem accepts_version_iff {v : Json} :
    accepts definitions v .version = true ↔ ∃ s, v = .string s ∧ isVersion s = true := by
  cases v <;> simp [accepts, complaints]

theorem accepts_integer_iff {v : Json} {least : Int} :
    accepts definitions v (.integer least) = true ↔
      v.isBelow least = false ∧ v.isWhole = true := by
  cases v <;> simp [accepts, complaints, ite_eq_left_iff]

theorem accepts_list_iff {v : Json} {least : Nat} {s : Schema δ} :
    accepts definitions v (.list least s) = true ↔ ∃ items, v = .array items ∧
      least ≤ items.length ∧ ∀ x ∈ items, accepts definitions x (s.resolve definitions) = true := by
  cases v <;> simp [accepts, complaints, acceptsItems_iff]

/-- A list of values of one form is the image of a list of what they are made from. -/
theorem exists_map_eq {α β : Type} {f : α → β} {P : α → Prop} {l : List β}
    (h : ∀ y ∈ l, ∃ x, y = f x ∧ P x) : ∃ xs : List α, l = xs.map f ∧ ∀ x ∈ xs, P x := by
  induction l with
  | nil => exact ⟨[], rfl, by simp⟩
  | cons y l ih =>
    obtain ⟨⟨x, rfl, hx⟩, hl⟩ := List.forall_mem_cons.1 h
    obtain ⟨xs, rfl, hxs⟩ := ih hl
    exact ⟨x :: xs, rfl, List.forall_mem_cons.2 ⟨hx, hxs⟩⟩

/-- A list with an item is accepted when its items are of the accepted form. -/
theorem accepts_nonEmptyList_iff {α : Type} {write : α → Json} {P : α → Prop} {v : Json}
    {s : Schema δ} (h : ∀ items, v = .array items → ∀ x ∈ items,
      (accepts definitions x (s.resolve definitions) = true ↔ ∃ a, x = write a ∧ P a)) :
    accepts definitions v (.list 1 s) = true ↔
      ∃ xs : List α, v = .array (xs.map write) ∧ xs ≠ [] ∧ ∀ a ∈ xs, P a := by
  rw [accepts_list_iff]
  constructor
  · rintro ⟨items, rfl, hlen, hitems⟩
    obtain ⟨xs, rfl, hxs⟩ := exists_map_eq fun x hx => (h items rfl x hx).1 (hitems x hx)
    exact ⟨xs, rfl, by rintro rfl; simp at hlen, hxs⟩
  · rintro ⟨xs, rfl, hne, hxs⟩
    refine ⟨_, rfl, ?_, fun x hx => (h _ rfl x hx).2 ?_⟩
    · rw [List.length_map]
      exact List.length_pos_iff.2 hne
    · obtain ⟨a, ha, rfl⟩ := List.mem_map.1 hx
      exact ⟨a, rfl, hxs a ha⟩

theorem exists_object_of_accepts {v : Json} {shape : RecordShape δ}
    (ha : accepts definitions v (.record shape) = true) : ∃ members, v = .object members := by
  cases v with
  | object members => exact ⟨members, rfl⟩
  | _ => simp [accepts, complaints] at ha

/-- An object is accepted when all its keys are known, there are enough of them, no required one is
missing, and the parts are accepted. -/
theorem accepts_object_iff {members : Members} {shape : RecordShape δ} :
    accepts definitions (.object members) (.record shape) = true ↔
      ((∀ key ∈ members.keys, (shape.property? key).isSome) ∧
        shape.minProperties ≤ members.length ∧ ∀ key ∈ shape.required, key ∈ members.keys) ∧
      ∀ m ∈ members, ∀ s, shape.property? m.1 = some s →
        accepts definitions m.2 (s.resolve definitions) = true := by
  have hc : ((Constraint.record shape).complaints (.object members)).isEmpty = true ↔
      (∀ key ∈ members.keys, (shape.property? key).isSome) ∧
        shape.minProperties ≤ members.length ∧ ∀ key ∈ shape.required, key ∈ members.keys := by
    rw [← RecordShape.unexpected_eq_nil_iff, ← RecordShape.missing_eq_nil_iff]
    simp [complaints]
  rw [accepts, Bool.and_eq_true, hc, acceptsMembers_iff]

theorem accepts_record_iff {members : Members} {shape : RecordShape δ}
    (hs : Members.Sorted members) :
    accepts definitions (.object members) (.record shape) = true ↔
      shape.minProperties ≤ members.length ∧ (∀ key ∈ shape.required, key ∈ members.keys) ∧
      ∀ key v, Members.get? members key = some v → ∃ s, shape.property? key = some s ∧
        accepts definitions v (s.resolve definitions) = true := by
  rw [accepts_object_iff]
  constructor
  · rintro ⟨⟨hknown, hleast, hrequired⟩, hparts⟩
    refine ⟨hleast, hrequired, fun key v hv => ?_⟩
    obtain ⟨s, hp⟩ := Option.isSome_iff_exists.1 (hknown key (Members.mem_keys_iff.2 ⟨v, hv⟩))
    exact ⟨s, hp, hparts _ (Members.mem_of_get? hv) s hp⟩
  · rintro ⟨hleast, hrequired, hparts⟩
    refine ⟨⟨fun key hk => ?_, hleast, hrequired⟩, fun m hm s hp => ?_⟩
    · obtain ⟨m, hm, rfl⟩ := List.mem_map.1 hk
      obtain ⟨s, hp, -⟩ := hparts m.1 m.2 ((Members.get?_eq_some_iff hs).2 hm)
      exact Option.isSome_iff_exists.2 ⟨s, hp⟩
    · obtain ⟨t, ht, ha⟩ := hparts m.1 m.2 ((Members.get?_eq_some_iff hs).2 hm)
      obtain rfl : t = s := Option.some.inj (ht.symm.trans hp)
      exact ha

/-! ### Properties -/

section

variable {members : Members} {properties : List (String × Schema δ)}

/-- The members have a value for the key of a property, and it satisfies the schema. -/
def Holds (definitions : δ → Constraint δ) (members : Members) (p : String × Schema δ) : Prop :=
  ∃ v, Members.get? members p.1 = some v ∧ accepts definitions v (p.2.resolve definitions) = true

/-- If the members have a value for the key of a property, it satisfies the schema. -/
def HoldsIfPresent (definitions : δ → Constraint δ) (members : Members) (p : String × Schema δ) :
    Prop :=
  ∀ v, Members.get? members p.1 = some v → accepts definitions v (p.2.resolve definitions) = true

/-- What holds of a key, where the accepted values have a known form. -/
theorem holds_iff {α : Type} {write : α → Json} {P : α → Prop} {key : String} {s : Schema δ}
    (h : ∀ v, Members.get? members key = some v →
      (accepts definitions v (s.resolve definitions) = true ↔ ∃ a, v = write a ∧ P a)) :
    Holds definitions members (key, s) ↔ ∃ a, Members.get? members key = some (write a) ∧ P a := by
  constructor
  · rintro ⟨v, hv, ha⟩
    obtain ⟨a, rfl, hp⟩ := (h v hv).1 ha
    exact ⟨a, hv, hp⟩
  · rintro ⟨a, hv, hp⟩
    exact ⟨_, hv, (h _ hv).2 ⟨a, rfl, hp⟩⟩

theorem holdsIfPresent_iff {α : Type} {write : α → Json} {P : α → Prop} {key : String}
    {s : Schema δ} (h : ∀ v, Members.get? members key = some v →
      (accepts definitions v (s.resolve definitions) = true ↔ ∃ a, v = write a ∧ P a)) :
    HoldsIfPresent definitions members (key, s) ↔
      ∃ o : Option α, Members.get? members key = o.map write ∧ ∀ a ∈ o, P a := by
  cases hv : Members.get? members key with
  | none => exact iff_of_true (fun v hn => absurd (hv.symm.trans hn) (by simp)) ⟨none, by simp⟩
  | some v =>
    have hform := h v hv
    constructor
    · intro hp
      obtain ⟨a, rfl, ha⟩ := hform.1 (hp v hv)
      exact ⟨some a, rfl, by simpa using ha⟩
    · rintro ⟨o, ho, hp⟩ w hw
      obtain rfl : v = w := Option.some.inj (hv.symm.trans hw)
      obtain ⟨a, rfl, rfl⟩ := Option.map_eq_some_iff.1 ho.symm
      exact hform.2 ⟨a, rfl, hp a rfl⟩

/-- A closed object is accepted when it has no other key than those of its properties, holds the
required ones, and holds the others as far as they are present. -/
theorem accepts_shape_iff {shape : RecordShape δ} (hs : Members.Sorted members)
    (hn : shape.properties.Pairwise fun p q => p.1 ≠ q.1)
    (hr : ∀ key ∈ shape.required, key ∈ shape.properties.map Prod.fst) :
    accepts definitions (.object members) (.record shape) = true ↔
      shape.minProperties ≤ members.length ∧
      (∀ key ∈ members.keys, key ∈ shape.properties.map Prod.fst) ∧
      ∀ p ∈ shape.properties, if p.1 ∈ shape.required then Holds definitions members p
        else HoldsIfPresent definitions members p := by
  rw [accepts_record_iff hs]
  refine and_congr_right fun _ => ?_
  constructor
  · rintro ⟨hrequired, hparts⟩
    have hpresent : ∀ p ∈ shape.properties, HoldsIfPresent definitions members p := by
      intro p hp v hv
      obtain ⟨s, hs, ha⟩ := hparts p.1 v hv
      exact Option.some.inj (hs.symm.trans (RecordShape.property?_of_mem hn hp)) ▸ ha
    refine ⟨fun key hk => ?_, fun p hp => ?_⟩
    · obtain ⟨v, hv⟩ := Members.mem_keys_iff.1 hk
      obtain ⟨s, hs, -⟩ := hparts key v hv
      exact List.mem_map_of_mem (RecordShape.mem_of_property? hs)
    · split
      · next hreq =>
        obtain ⟨v, hv⟩ := Members.mem_keys_iff.1 (hrequired p.1 hreq)
        exact ⟨v, hv, hpresent p hp v hv⟩
      · exact hpresent p hp
  · rintro ⟨hknown, hparts⟩
    refine ⟨fun key hk => ?_, fun key v hv => ?_⟩
    · obtain ⟨p, hp, rfl⟩ := List.mem_map.1 (hr key hk)
      have hpart := hparts p hp
      rw [if_pos hk] at hpart
      obtain ⟨v, hv, -⟩ := hpart
      exact Members.mem_keys_iff.2 ⟨v, hv⟩
    · obtain ⟨p, hp, rfl⟩ := List.mem_map.1 (hknown key (Members.mem_keys_iff.2 ⟨v, hv⟩))
      refine ⟨p.2, RecordShape.property?_of_mem hn hp, ?_⟩
      have hpart := hparts p hp
      split at hpart
      · obtain ⟨w, hw, ha⟩ := hpart
        obtain rfl : w = v := Option.some.inj (hw.symm.trans hv)
        exact ha
      · exact hpart v hv

end

/-! ### Choices -/

/-- Some value is accepted by both of two shapes. -/
def Overlap (definitions : δ → Constraint δ) (a b : RecordShape δ) : Prop :=
  ∃ v, accepts definitions v (.record a) = true ∧ accepts definitions v (.record b) = true

private theorem countP_eq_one_iff {α : Type} {p : α → Bool} {l : List α}
    (hl : l.Pairwise fun a b => ¬ (p a = true ∧ p b = true)) :
    l.countP p = 1 ↔ ∃ a ∈ l, p a = true := by
  induction l with
  | nil => simp
  | cons a rest ih =>
    by_cases ha : p a = true
    · have hr : rest.countP p = 0 := List.countP_eq_zero.2 fun b hb hp =>
        List.rel_of_pairwise_cons hl hb ⟨ha, hp⟩
      simp [ha, hr]
    · simp [ha, ih hl.of_cons]

/-- **Of alternatives that exclude each other, one that accepts is enough.** -/
theorem accepts_oneOf_iff {v : Json} {alternatives : List (RecordShape δ)}
    (he : alternatives.Pairwise fun a b => ¬ Overlap definitions a b) :
    accepts definitions v (.oneOf alternatives) = true ↔
      ∃ shape ∈ alternatives, accepts definitions v (.record shape) = true := by
  cases v with
  | object members =>
    have hp : alternatives.Pairwise fun a b =>
        ¬ (accepts definitions (.object members) (.record a) = true ∧
          accepts definitions (.object members) (.record b) = true) :=
      he.imp fun hn h => hn ⟨_, h⟩
    rw [← countP_eq_one_iff hp, accepts, beq_iff_eq]
    simp only [accepts]
  | _ => simp [accepts, complaints]

end Constraint

/-- The constant that an object has to hold under a key. -/
def RecordShape.constant? {δ : Type} (shape : RecordShape δ) (key : String) : Option String :=
  match shape.property? key with
  | some (.inline (.constant text)) => if key ∈ shape.required then some text else none
  | _ => none

/-- Whether two shapes ask for different constants under one of several keys. -/
def RecordShape.differ {δ : Type} (keys : List String) (a b : RecordShape δ) : Bool :=
  keys.any fun key =>
    match a.constant? key, b.constant? key with
    | some s, some t => s != t
    | _, _ => false

theorem RecordShape.constant?_eq_some {δ : Type} {shape : RecordShape δ} {key text : String}
    (h : shape.constant? key = some text) :
    key ∈ shape.required ∧ shape.property? key = some (.inline (.constant text)) := by
  unfold constant? at h
  split at h
  · next t ht => split at h <;> simp_all
  · exact absurd h (by simp)

/-- Two shapes ask for different constants under some key. -/
def RecordShape.Differ {δ : Type} (a b : RecordShape δ) : Prop :=
  ∃ key s t, a.constant? key = some s ∧ b.constant? key = some t ∧ s ≠ t

theorem RecordShape.Differ.of_differ {δ : Type} {keys : List String} {a b : RecordShape δ}
    (h : RecordShape.differ keys a b = true) : Differ a b := by
  obtain ⟨key, -, hk⟩ := List.any_eq_true.1 h
  split at hk
  · next s t hs ht => exact ⟨key, s, t, hs, ht, by simpa using hk⟩
  · exact absurd hk (by simp)

/-- An accepted object has the constants that its shape asks for. -/
theorem Constraint.get?_of_constant? {δ : Type} {definitions : δ → Constraint δ}
    {members : Members} {shape : RecordShape δ} {key text : String}
    (ha : accepts definitions (.object members) (.record shape) = true)
    (hc : shape.constant? key = some text) : Members.get? members key = some (.string text) := by
  obtain ⟨hrequired, hproperty⟩ := RecordShape.constant?_eq_some hc
  obtain ⟨⟨-, -, hpresent⟩, hparts⟩ := accepts_object_iff.1 ha
  obtain ⟨v, hv⟩ := Members.mem_keys_iff.1 (hpresent key hrequired)
  have hconstant : v = .string text :=
    accepts_constant_iff.1 (hparts (key, v) (Members.mem_of_get? hv) _ hproperty)
  rw [hv, hconstant]

/-- Shapes that ask for different constants exclude each other. -/
theorem Constraint.not_overlap_of_differ {δ : Type} {definitions : δ → Constraint δ}
    {a b : RecordShape δ} (h : RecordShape.Differ a b) : ¬ Overlap definitions a b := by
  rintro ⟨v, ha, hb⟩
  obtain ⟨key, s, t, hs, ht, hne⟩ := h
  obtain ⟨members, rfl⟩ := exists_object_of_accepts ha
  have hst := (get?_of_constant? ha hs).symm.trans (get?_of_constant? hb ht)
  exact hne (Json.string.inj (Option.some.inj hst))

namespace RulesetSchema

open Constraint

variable {definitions : Name → Constraint Name} {members : Members}
  {properties : List (String × Schema Name)}

/-- A closed object with exactly the given keys is accepted when it has no other key and holds each
property. -/
theorem accepts_exactly_iff (hs : Members.Sorted members)
    (hn : properties.Pairwise fun p q => p.1 ≠ q.1) :
    accepts definitions (.object members) (.record (exactly properties)) = true ↔
      (∀ key ∈ members.keys, key ∈ properties.map Prod.fst) ∧
      ∀ p ∈ properties, Holds definitions members p := by
  have hshape := @accepts_shape_iff _ definitions members (exactly properties) hs hn fun _ hk => hk
  have hall : ∀ p ∈ properties, p.1 ∈ (exactly properties).required :=
    fun _ hp => List.mem_map_of_mem hp
  rw [hshape]
  refine (and_iff_right (Nat.zero_le _)).trans (and_congr_right fun _ => ?_)
  exact forall₂_congr fun p hp => by rw [if_pos (hall p hp)]

/-- An object that has the keys of a closed shape is known when the values of these keys are; `ks`
are the keys in order. -/
theorem eq_of_known_keys {l : Members} (ks : List String) (hs : Members.Sorted members)
    (hk : ∀ key ∈ members.keys, key ∈ properties.map Prod.fst) (hl : l.keys = ks)
    (hks : ks.Pairwise (· < ·)) (hp : (properties.map Prod.fst).Perm ks)
    (h : ∀ m ∈ l, Members.get? members m.1 = some m.2) : members = l :=
  Members.eq_of_forall_mem hs (Members.sorted_of_keys ks hl hks)
    (fun key hkey => hl ▸ hp.mem_iff.1 (hk key hkey)) h

end RulesetSchema

end ControlPlane
