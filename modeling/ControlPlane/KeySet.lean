/-!
# Sets of names

A finite set of names is the list of its members in strictly increasing order, so that equal sets
are equal lists and the first member that fails a test is the least one. The order is by code
points, which is also the order of the UTF-8 bytes.

## Main definitions

* `KeySet` : the sets, with membership.
* `KeySet.insert`, `KeySet.ofList` : building a set.

## Main statements

* `KeySet.mem_insert`, `KeySet.mem_ofList` : what is in a built set.
* `KeySet.find?_names_eq_some_iff` : the first name that passes a test is the least one.
* `KeySet.ext` : sets with the same members are equal.
-/

namespace ControlPlane

/-- Names in strictly increasing order. -/
structure KeySet where
  names : List String
  increasing : names.Pairwise (· < ·)
deriving DecidableEq

namespace KeySet

instance : Membership String KeySet := ⟨fun set name => name ∈ set.names⟩

instance (name : String) (set : KeySet) : Decidable (name ∈ set) :=
  inferInstanceAs (Decidable (name ∈ set.names))

/-- The set without members. -/
def empty : KeySet := ⟨[], .nil⟩

theorem not_mem_empty {name : String} : name ∉ empty := List.not_mem_nil

/-- Whether a set has no members. -/
def isEmpty (set : KeySet) : Bool := set.names.isEmpty

/-- Puts a name into its place among increasing names, unless it is there already. -/
def place (name : String) : List String → List String
  | [] => [name]
  | n :: rest =>
    if name < n then name :: n :: rest
    else if name = n then n :: rest
    else n :: place name rest

theorem mem_place {n name : String} {names : List String} :
    n ∈ place name names ↔ n = name ∨ n ∈ names := by
  fun_induction place name names with grind

theorem pairwise_place {name : String} {names : List String} (h : names.Pairwise (· < ·)) :
    (place name names).Pairwise (· < ·) := by
  fun_induction place name names with
  | case1 => simp
  | case2 n rest hlt =>
    refine .cons (fun m hm => ?_) h
    rcases List.mem_cons.1 hm with rfl | hm
    · exact hlt
    · exact String.lt_trans hlt (List.rel_of_pairwise_cons h hm)
  | case3 => exact h
  | case4 n rest hlt hne ih =>
    refine .cons (fun m hm => ?_) (ih h.of_cons)
    rcases mem_place.1 hm with rfl | hm
    · rcases Std.lt_trichotomy m n with h' | h' | h'
      · exact absurd h' hlt
      · exact absurd h' hne
      · exact h'
    · exact List.rel_of_pairwise_cons h hm

/-- Adds a name to a set. -/
def insert (name : String) (set : KeySet) : KeySet :=
  ⟨place name set.names, pairwise_place set.increasing⟩

/-- The set of the names in a list. -/
def ofList (names : List String) : KeySet := names.foldl (fun set n => insert n set) empty

theorem mem_insert {n name : String} {set : KeySet} : n ∈ insert name set ↔ n = name ∨ n ∈ set :=
  mem_place

private theorem mem_foldl_insert {n : String} {names : List String} {set : KeySet} :
    n ∈ names.foldl (fun set n => insert n set) set ↔ n ∈ names ∨ n ∈ set := by
  induction names generalizing set with
  | nil => simp
  | cons m rest ih => simp only [List.foldl_cons, ih, mem_insert, List.mem_cons]; grind

theorem mem_ofList {n : String} {names : List String} : n ∈ ofList names ↔ n ∈ names := by
  simp only [ofList, mem_foldl_insert, or_iff_left_iff_imp]
  exact fun h => absurd h List.not_mem_nil

private theorem names_ext : {a b : List String} → a.Pairwise (· < ·) → b.Pairwise (· < ·) →
    (∀ n, n ∈ a ↔ n ∈ b) → a = b
  | [], [], _, _, _ => rfl
  | [], y :: _, _, _, h => absurd ((h y).2 List.mem_cons_self) List.not_mem_nil
  | x :: _, [], _, _, h => absurd ((h x).1 List.mem_cons_self) List.not_mem_nil
  | x :: a, y :: b, ha, hb, h => by
    have hx := (h x).1 List.mem_cons_self
    have hy := (h y).2 List.mem_cons_self
    have heq : x = y := by
      rcases List.mem_cons.1 hx with hx | hx
      · exact hx
      · rcases List.mem_cons.1 hy with hy | hy
        · exact hy.symm
        · exact absurd (String.lt_trans (List.rel_of_pairwise_cons ha hy)
            (List.rel_of_pairwise_cons hb hx)) (String.lt_irrefl x)
    subst heq
    refine congrArg (x :: ·) (names_ext ha.of_cons hb.of_cons fun n => ?_)
    have hn := h n
    have hna : n ∈ a → n ≠ x := fun hm he =>
      String.lt_irrefl x (he ▸ List.rel_of_pairwise_cons ha hm)
    have hnb : n ∈ b → n ≠ x := fun hm he =>
      String.lt_irrefl x (he ▸ List.rel_of_pairwise_cons hb hm)
    grind

/-- The names in front of one are less, and those behind it are greater. -/
theorem lt_of_names_eq {set : KeySet} {before after : List String} {name : String}
    (h : set.names = before ++ name :: after) :
    (∀ n ∈ before, n < name) ∧ ∀ n ∈ after, name < n := by
  have hincreasing := set.increasing
  rw [h, List.pairwise_append] at hincreasing
  obtain ⟨-, hafter, hbefore⟩ := hincreasing
  exact ⟨fun n hn => hbefore n hn name List.mem_cons_self,
    fun n hn => List.rel_of_pairwise_cons hafter hn⟩

/-- The first name that passes a test is the least one that does. -/
theorem find?_names_eq_some_iff {P : String → Prop} [DecidablePred P] {set : KeySet} {name : String} :
    (set.names.find? fun n => decide (P n)) = some name ↔
      (name ∈ set ∧ P name) ∧ ∀ n ∈ set, P n → name ≤ n := by
  simp only [List.find?_eq_some_iff_append, decide_eq_true_eq, Bool.not_eq_true',
    decide_eq_false_iff_not]
  constructor
  · rintro ⟨hp, before, after, hnames, hbefore⟩
    have hmem : name ∈ set.names := by simp [hnames]
    refine ⟨⟨hmem, hp⟩, fun n hn hpn => ?_⟩
    have hn : n ∈ before ∨ n = name ∨ n ∈ after := by
      simpa [hnames] using (show n ∈ set.names from hn)
    rcases hn with hn | rfl | hn
    · exact absurd hpn (hbefore n hn)
    · exact String.le_refl n
    · exact fun hlt => String.lt_asymm hlt ((lt_of_names_eq hnames).2 n hn)
  · rintro ⟨⟨hmem, hp⟩, hleast⟩
    obtain ⟨before, after, hnames⟩ := List.append_of_mem hmem
    refine ⟨hp, before, after, hnames, fun n hn hpn => ?_⟩
    have hmem : n ∈ set.names := by simp [hnames, hn]
    exact hleast n hmem hpn ((lt_of_names_eq hnames).1 n hn)

/-- Sets with the same members are equal. -/
theorem ext {a b : KeySet} (h : ∀ n, n ∈ a ↔ n ∈ b) : a = b := by
  obtain ⟨a, ha⟩ := a
  obtain ⟨b, hb⟩ := b
  obtain rfl := names_ext ha hb h
  rfl

end KeySet

end ControlPlane
