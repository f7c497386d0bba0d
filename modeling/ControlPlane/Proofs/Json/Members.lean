import ControlPlane.Json.Basic
import Mathlib.Data.String.Basic

/-!
# Members as finite maps

Members in key order are determined by what they give for each key. Two objects are therefore
compared key by key, and an object whose keys are known is compared at these keys only.

## Main definitions

* `Members.present` : the members of fields that may be absent.

## Main statements

* `Members.get?_insert`, `Members.get?_ofList` : what building members does to look-ups.
* `Members.sorted_insert`, `Members.sorted_ofList` : building members keeps them in key order.
* `Members.ext_get?` : sorted members with the same look-ups are equal.
* `Members.eq_of_get?`, `Members.eq_present` : members over known keys are compared at these keys.
* `Members.ofList_eq_of_perm` : members in another order are put into their order again.
* `Json.sizeOf_lt_of_get?` : the value of a key is smaller than its object.
-/

namespace ControlPlane

namespace Members

variable {key : String} {value : Json} {members : Members}

@[simp] theorem get?_nil : get? [] key = none := rfl

theorem get?_cons (k : String) (v : Json) :
    get? ((k, v) :: members) key = if k = key then some v else get? members key := by
  by_cases h : k = key <;> simp [get?, h]

@[simp] theorem keys_nil : keys [] = [] := rfl

@[simp] theorem keys_cons (m : String × Json) : keys (m :: members) = m.1 :: keys members := rfl

theorem get?_eq_none_iff : get? members key = none ↔ key ∉ keys members := by
  induction members with
  | nil => simp
  | cons m rest ih =>
    rw [get?_cons, keys_cons, List.mem_cons, not_or, ← ih]
    split <;> simp_all [eq_comm]

theorem mem_keys_iff : key ∈ keys members ↔ ∃ v, get? members key = some v := by
  rw [← Option.ne_none_iff_exists', ne_eq, get?_eq_none_iff, not_not]

theorem mem_of_get? (h : get? members key = some value) : (key, value) ∈ members := by
  induction members with
  | nil => exact absurd h (by simp)
  | cons m rest ih =>
    rw [get?_cons] at h
    split at h
    · next hk =>
      obtain rfl : m.2 = value := Option.some.inj h
      exact List.mem_cons.2 (.inl (Prod.ext hk.symm rfl))
    · exact List.mem_cons_of_mem _ (ih h)

/-- A key of sorted members stands once, so its member is what a look-up finds. -/
theorem get?_eq_some_iff (hs : Sorted members) :
    get? members key = some value ↔ (key, value) ∈ members := by
  refine ⟨mem_of_get?, fun h => ?_⟩
  induction members with
  | nil => exact absurd h (by simp)
  | cons m rest ih =>
    rw [get?_cons]
    rcases List.mem_cons.1 h with rfl | hr
    · simp
    · have hlt : m.1 < key := List.rel_of_pairwise_cons hs hr
      rw [if_neg fun he : m.1 = key => String.lt_irrefl key (he ▸ hlt)]
      exact ih hs.of_cons hr

theorem Sorted.not_mem_keys {m : String × Json} (hs : Sorted (m :: members)) :
    m.1 ∉ keys members := fun hm => by
  obtain ⟨n, hn, he⟩ := List.mem_map.1 hm
  exact String.lt_irrefl m.1 (he ▸ List.rel_of_pairwise_cons hs hn)

theorem sorted_of_keys (ks : List String) (hk : keys members = ks) (h : ks.Pairwise (· < ·)) :
    Sorted members :=
  List.pairwise_map.1 (hk ▸ h : (keys members).Pairwise (· < ·))

theorem get?_insert (k : String) (v : Json) (members : Members) (key : String) :
    get? (insert k v members) key = if k = key then some v else get? members key := by
  fun_induction insert k v members with
  | case1 => exact get?_cons k v
  | case2 => exact get?_cons k v
  | case3 v' rest hlt =>
    simp only [get?_cons]
    split <;> rfl
  | case4 k' v' rest hlt hne ih =>
    simp only [get?_cons, ih]
    split
    · next h => rw [if_neg fun he => hne (he.trans h.symm)]
    · rfl

theorem mem_insert {m : String × Json} {k : String} {v : Json}
    (h : m ∈ insert k v members) : m = (k, v) ∨ m ∈ members := by
  fun_induction insert k v members with grind

theorem sorted_insert {k : String} {v : Json} (h : Sorted members) :
    Sorted (insert k v members) := by
  fun_induction insert k v members with
  | case1 => exact List.pairwise_singleton _ _
  | case2 k' v' rest hlt =>
    refine .cons (fun m hm => ?_) h
    rcases List.mem_cons.1 hm with rfl | hm
    · exact hlt
    · exact String.lt_trans hlt (List.rel_of_pairwise_cons h hm)
  | case3 v' rest hlt => exact .cons (fun m hm => List.rel_of_pairwise_cons h hm) h.of_cons
  | case4 k' v' rest hlt hne ih =>
    refine .cons (fun m hm => ?_) (ih h.of_cons)
    rcases mem_insert hm with rfl | hm
    · rcases Std.lt_trichotomy k k' with h' | h' | h'
      · exact absurd h' hlt
      · exact absurd h' hne
      · exact h'
    · exact List.rel_of_pairwise_cons h hm

private theorem sorted_foldl {l : List (String × Json)} (h : Sorted members) :
    Sorted (l.foldl (fun sorted m => insert m.1 m.2 sorted) members) := by
  induction l generalizing members with
  | nil => exact h
  | cons m rest ih => exact ih (sorted_insert h)

theorem sorted_ofList (l : List (String × Json)) : Sorted (ofList l) := sorted_foldl .nil

private theorem get?_foldl {l : List (String × Json)} (hn : (keys l).Nodup) :
    get? (l.foldl (fun sorted m => insert m.1 m.2 sorted) members) key =
      (get? l key).or (get? members key) := by
  induction l generalizing members with
  | nil => simp
  | cons m rest ih =>
    obtain ⟨hm, hr⟩ := List.nodup_cons.1 hn
    rw [List.foldl_cons, ih hr, get?_insert, get?_cons]
    split
    · next h => simp [get?_eq_none_iff.2 (h ▸ hm)]
    · rfl

/-- Where no key is repeated, sorting members keeps every look-up. -/
theorem get?_ofList {l : List (String × Json)} (hn : (keys l).Nodup) :
    get? (ofList l) key = get? l key := by
  simp [ofList, get?_foldl hn]

/-- **Sorted members are determined by their look-ups.** -/
theorem ext_get? : {a b : Members} → Sorted a → Sorted b → (∀ key, get? a key = get? b key) → a = b
  | [], [], _, _, _ => rfl
  | [], (k, v) :: b, _, _, h => absurd (h k) (by simp [get?_cons])
  | (k, v) :: a, [], _, _, h => absurd (h k) (by simp [get?_cons])
  | (k, v) :: a, (l, w) :: b, ha, hb, h => by
    have hk : (k, v) ∈ (l, w) :: b :=
      (get?_eq_some_iff hb).1 ((h k).symm.trans (by simp [get?_cons]))
    have hl : (l, w) ∈ (k, v) :: a := (get?_eq_some_iff ha).1 ((h l).trans (by simp [get?_cons]))
    -- The first keys agree, since each of them is not less than the other.
    have heq : (k, v) = (l, w) := by
      rcases List.mem_cons.1 hk with hk | hk
      · exact hk
      · rcases List.mem_cons.1 hl with hl | hl
        · exact hl.symm
        · exact absurd (String.lt_trans (List.rel_of_pairwise_cons ha hl)
            (List.rel_of_pairwise_cons hb hk)) (String.lt_irrefl k)
    obtain ⟨rfl, rfl⟩ := Prod.mk.inj heq
    refine congrArg ((k, v) :: ·) (ext_get? ha.of_cons hb.of_cons fun key => ?_)
    have hkey := h key
    rw [get?_cons, get?_cons] at hkey
    by_cases he : k = key
    · subst he
      rw [get?_eq_none_iff.2 ha.not_mem_keys, get?_eq_none_iff.2 hb.not_mem_keys]
    · simpa only [if_neg he] using hkey

/-- Sorted members over known keys are determined by what they give for these keys. -/
theorem eq_of_get? {a b : Members} (ha : Sorted a) (hb : Sorted b)
    (hk : ∀ key ∈ keys a, key ∈ keys b) (h : ∀ key ∈ keys b, get? a key = get? b key) : a = b := by
  refine ext_get? ha hb fun key => ?_
  by_cases hm : key ∈ keys b
  · exact h key hm
  · rw [get?_eq_none_iff.2 fun ha => hm (hk key ha), get?_eq_none_iff.2 hm]

/-- Sorted members that have no other keys than given members, and all of these, are these. -/
theorem eq_of_forall_mem {a b : Members} (ha : Sorted a) (hb : Sorted b)
    (hk : ∀ key ∈ keys a, key ∈ keys b) (h : ∀ m ∈ b, get? a m.1 = some m.2) : a = b := by
  refine eq_of_get? ha hb hk fun key hkey => ?_
  obtain ⟨m, hm, rfl⟩ := List.mem_map.1 hkey
  exact (h m hm).trans ((get?_eq_some_iff hb).2 hm).symm

theorem Sorted.nodup_keys (hs : Sorted members) : (keys members).Nodup :=
  List.pairwise_map.2 (hs.imp String.ne_of_lt)

/-- A key that stands once has its member as what a look-up finds, in whatever order members stand. -/
theorem get?_eq_some_of_mem {m : String × Json} (hn : (keys members).Nodup) (h : m ∈ members) :
    get? members m.1 = some m.2 := by
  induction members with
  | nil => exact absurd h (by simp)
  | cons n rest ih =>
    obtain ⟨hkey, hrest⟩ := List.nodup_cons.1 hn
    rw [get?_cons]
    rcases List.mem_cons.1 h with rfl | h
    · exact if_pos rfl
    · rw [if_neg fun he : n.1 = m.1 => hkey (he ▸ List.mem_map_of_mem h)]
      exact ih hrest h

/-- **Members in another order are put into their order again.** -/
theorem ofList_eq_of_perm {l : List (String × Json)} (hs : Sorted members) (h : l.Perm members) :
    ofList l = members := by
  have hn : (keys l).Nodup := (h.map Prod.fst).nodup_iff.2 hs.nodup_keys
  refine eq_of_forall_mem (sorted_ofList l) hs (fun key hkey => ?_) fun m hm => ?_
  · obtain ⟨v, hv⟩ := mem_keys_iff.1 hkey
    rw [get?_ofList hn] at hv
    exact (h.map Prod.fst).mem_iff.1 (mem_keys_iff.2 ⟨v, hv⟩)
  · rw [get?_ofList hn]
    exact get?_eq_some_of_mem hn (h.mem_iff.2 hm)

/-! ### Fields that may be absent -/

variable {fields : List (String × Option Json)}

/-- The members of those fields that are present. -/
def present (fields : List (String × Option Json)) : Members :=
  fields.filterMap fun f => f.2.map fun v => (f.1, v)

@[simp] theorem present_some (k : String) (v : Json) :
    present ((k, some v) :: fields) = (k, v) :: present fields := rfl

@[simp] theorem present_none (k : String) : present ((k, none) :: fields) = present fields := rfl

theorem mem_present {m : String × Json} (h : m ∈ present fields) : (m.1, some m.2) ∈ fields := by
  obtain ⟨⟨k, o⟩, hf, hm⟩ := List.mem_filterMap.1 h
  obtain ⟨v, rfl, rfl⟩ := Option.map_eq_some_iff.1 hm
  exact hf

theorem keys_present_sublist : (fields : List (String × Option Json)) →
    (keys (present fields)).Sublist (fields.map Prod.fst)
  | [] => .slnil
  | (_, none) :: rest => .cons _ (keys_present_sublist rest)
  | (_, some _) :: rest => .cons_cons _ (keys_present_sublist rest)

theorem sorted_present (h : (fields.map Prod.fst).Pairwise (· < ·)) : Sorted (present fields) :=
  List.pairwise_map.1 (h.sublist (keys_present_sublist fields))

theorem get?_present (h : (fields.map Prod.fst).Nodup) {f : String × Option Json}
    (hf : f ∈ fields) : get? (present fields) f.1 = f.2 := by
  induction fields with
  | nil => exact absurd hf (by simp)
  | cons g rest ih =>
    obtain ⟨hg, hr⟩ := List.nodup_cons.1 h
    have habsent : get? (present rest) g.1 = none :=
      get?_eq_none_iff.2 fun hk => hg ((keys_present_sublist rest).subset hk)
    obtain ⟨k, o⟩ := g
    rcases List.mem_cons.1 hf with rfl | hrest
    · cases o with
      | none => exact habsent
      | some v => simp [get?_cons]
    · have hm : f.1 ∈ rest.map Prod.fst := List.mem_map_of_mem hrest
      have hne : k ≠ f.1 := fun he => hg (he ▸ hm)
      cases o with
      | none => exact ih hr hrest
      | some v => rw [present_some, get?_cons, if_neg hne, ih hr hrest]

/-- Sorted members without other keys than those of given fields are compared field by field. -/
theorem eq_present (hfields : (fields.map Prod.fst).Pairwise (· < ·)) (hs : Sorted members)
    (hk : ∀ key ∈ keys members, key ∈ fields.map Prod.fst)
    (h : ∀ f ∈ fields, get? members f.1 = f.2) : members = present fields := by
  refine ext_get? hs (sorted_present hfields) fun key => ?_
  by_cases hm : key ∈ fields.map Prod.fst
  · obtain ⟨f, hf, rfl⟩ := List.mem_map.1 hm
    have hn : (fields.map Prod.fst).Nodup := hfields.imp String.ne_of_lt
    rw [h f hf, get?_present hn hf]
  · rw [get?_eq_none_iff.2 fun hkey => hm (hk key hkey),
      get?_eq_none_iff.2 fun hkey => hm ((keys_present_sublist fields).subset hkey)]

/-- Sorting the members of present fields is sorting the fields. -/
theorem ofList_present {sorted : List (String × Option Json)} (hn : (fields.map Prod.fst).Nodup)
    (hs : (sorted.map Prod.fst).Pairwise (· < ·))
    (hk : ∀ key ∈ fields.map Prod.fst, key ∈ sorted.map Prod.fst)
    (h : ∀ f ∈ sorted, f ∈ fields) : ofList (present fields) = present sorted := by
  have hkeys : (keys (present fields)).Nodup := hn.sublist (keys_present_sublist fields)
  refine eq_present hs (sorted_ofList _) (fun key hkey => ?_) fun f hf => ?_
  · obtain ⟨v, hv⟩ := mem_keys_iff.1 hkey
    rw [get?_ofList hkeys] at hv
    exact hk key ((keys_present_sublist fields).subset (mem_keys_iff.2 ⟨v, hv⟩))
  · rw [get?_ofList hkeys, get?_present hn (h f hf)]

end Members

namespace Json

theorem isNull_iff {v : Json} : v.isNull = true ↔ v = .null := by
  cases v <;> simp [isNull]

theorem text?_eq_some_iff {v : Json} {s : String} : v.text? = some s ↔ v = .string s := by
  cases v <;> simp [text?]

theorem items?_eq_some_iff {v : Json} {items : List Json} :
    v.items? = some items ↔ v = .array items := by
  cases v <;> simp [items?]

theorem wellFormedItems_iff {items : List Json} :
    WellFormedItems items ↔ ∀ v ∈ items, v.WellFormed := by
  induction items with
  | nil => simp [WellFormedItems]
  | cons v rest ih => simp [WellFormedItems, ih]

theorem wellFormedMembers_iff {members : Members} :
    WellFormedMembers members ↔ ∀ m ∈ members, m.2.WellFormed := by
  induction members with
  | nil => simp [WellFormedMembers]
  | cons m rest ih => simp [WellFormedMembers, ih]

theorem WellFormed.sorted {members : Members} (h : (Json.object members).WellFormed) :
    Members.Sorted members := by
  rw [WellFormed] at h
  exact h.1

theorem WellFormed.of_get? {members : Members} {key : String} {v : Json}
    (h : (Json.object members).WellFormed) (hk : Members.get? members key = some v) :
    v.WellFormed := by
  rw [WellFormed] at h
  exact wellFormedMembers_iff.1 h.2 _ (Members.mem_of_get? hk)

theorem WellFormed.of_mem_members {members : Members} {m : String × Json}
    (h : (Json.object members).WellFormed) (hm : m ∈ members) : m.2.WellFormed := by
  rw [WellFormed] at h
  exact wellFormedMembers_iff.1 h.2 m hm

theorem WellFormed.of_mem {items : List Json} {v : Json} (h : (Json.array items).WellFormed)
    (hv : v ∈ items) : v.WellFormed := by
  rw [WellFormed] at h
  exact wellFormedItems_iff.1 h v hv

theorem wellFormed_array_map {α : Type} {write : α → Json} {xs : List α}
    (h : ∀ a ∈ xs, (write a).WellFormed) : (Json.array (xs.map write)).WellFormed := by
  rw [WellFormed, wellFormedItems_iff]
  exact List.forall_mem_map.2 h

theorem wellFormed_present {fields : List (String × Option Json)}
    (hs : (fields.map Prod.fst).Pairwise (· < ·))
    (h : ∀ f ∈ fields, ∀ v ∈ f.2, v.WellFormed) :
    (Json.object (Members.present fields)).WellFormed := by
  rw [WellFormed, wellFormedMembers_iff]
  exact ⟨Members.sorted_present hs, fun m hm => h _ (Members.mem_present hm) m.2 rfl⟩

theorem sizeOf_lt_of_mem {items : List Json} {v : Json} (h : v ∈ items) :
    sizeOf v < sizeOf (Json.array items) := by
  have := List.sizeOf_lt_of_mem h
  rw [Json.array.sizeOf_spec]
  omega

theorem sizeOf_lt_of_get? {members : Members} {key : String} {v : Json}
    (h : Members.get? members key = some v) : sizeOf v < sizeOf (Json.object members) := by
  have := List.sizeOf_lt_of_mem (Members.mem_of_get? h)
  rw [Prod.mk.sizeOf_spec] at this
  rw [Json.object.sizeOf_spec]
  omega

end Json

end ControlPlane
