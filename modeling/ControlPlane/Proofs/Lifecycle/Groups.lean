import ControlPlane.Lifecycle.Index

/-!
# Groups of competing states

The states of a batch are put one after the other into the groups of their keys. No state is lost or
doubled on the way, and what stands together in a group are exactly the states that agree on a key.

## Main definitions

* `Lifecycle.Grouped` : each group is one of its key, and the keys strictly increase.

## Main statements

* `Lifecycle.grouped_groups` : the groups of a batch are of this kind.
* `Lifecycle.flatMap_members_groups` : the groups hold the states of the batch, each as often.
* `Lifecycle.exists_group` : the group of a state holds the states that agree with it.
* `Lifecycle.members_eq_filter` : a group holds the states of its key in the order of the batch.
* `Lifecycle.map_key_groups_eq` : batches with the same keys have groups of the same keys.
-/

namespace ControlPlane

theorem GovernanceKey.parts_injective {a b : GovernanceKey} (h : a.parts = b.parts) : a = b := by
  cases a
  cases b
  simpa [parts] using h

namespace Lifecycle

variable {p q : ProblemState} {gs : List Group} {states : List ProblemState}

/-- The members of each group have its key, and the keys of the groups strictly increase. -/
structure Grouped (gs : List Group) : Prop where
  key_eq : ∀ g ∈ gs, ∀ p ∈ g.members, p.key = g.key
  increasing : gs.Pairwise fun a b => a.key.parts < b.key.parts

theorem Grouped.of_cons {g : Group} (h : Grouped (g :: gs)) : Grouped gs :=
  ⟨fun k hk => h.key_eq k (List.mem_cons_of_mem _ hk), h.increasing.of_cons⟩

/-! ### One state -/

/-- A group behind the first is one that was there or the one of the new state. -/
theorem key_of_mem_place {g : Group} (hg : g ∈ place p gs) :
    g.key = p.key ∨ ∃ h ∈ gs, h.key = g.key := by
  fun_induction place p gs with grind

theorem flatMap_members_place :
    ((place p gs).flatMap Group.members).Perm (p :: gs.flatMap Group.members) := by
  fun_induction place p gs with
  | case1 => exact .refl _
  | case2 g rest hkey =>
    rw [List.flatMap_cons, List.flatMap_cons, List.append_assoc, List.singleton_append]
    exact List.perm_middle
  | case3 g rest hkey hlt => exact .refl _
  | case4 g rest hkey hlt ih =>
    rw [List.flatMap_cons, List.flatMap_cons]
    exact (ih.append_left _).trans List.perm_middle

theorem grouped_place (h : Grouped gs) : Grouped (place p gs) := by
  fun_induction place p gs with
  | case1 => exact ⟨by simp, List.pairwise_singleton _ _⟩
  | case2 g rest hkey =>
    refine ⟨List.forall_mem_cons.2 ⟨fun q hq => ?_, h.of_cons.key_eq⟩,
      List.pairwise_cons.2 (List.pairwise_cons.1 h.increasing)⟩
    rcases List.mem_append.1 hq with hq | hq
    · exact h.key_eq g List.mem_cons_self q hq
    · exact List.mem_singleton.1 hq ▸ hkey
  | case3 g rest hkey hlt =>
    refine ⟨List.forall_mem_cons.2 ⟨by simp, h.key_eq⟩, List.pairwise_cons.2 ⟨fun k hk => ?_,
      h.increasing⟩⟩
    rcases List.mem_cons.1 hk with rfl | hk
    · exact hlt
    · exact List.lt_trans hlt (List.rel_of_pairwise_cons h.increasing hk)
  | case4 g rest hkey hlt ih =>
    have hrest := ih h.of_cons
    have hgt : g.key.parts < p.key.parts := by
      rcases Std.lt_trichotomy p.key.parts g.key.parts with h' | h' | h'
      · exact absurd h' hlt
      · exact absurd (GovernanceKey.parts_injective h') hkey
      · exact h'
    refine ⟨List.forall_mem_cons.2 ⟨h.key_eq g List.mem_cons_self, hrest.key_eq⟩,
      List.pairwise_cons.2 ⟨fun k hk => ?_, hrest.increasing⟩⟩
    rcases key_of_mem_place hk with hk | ⟨k', hk', he⟩
    · exact hk ▸ hgt
    · exact he ▸ List.rel_of_pairwise_cons h.increasing hk'

/-- The members of groups that have a key. -/
def membersOf (key : GovernanceKey) (gs : List Group) : List ProblemState :=
  (gs.flatMap Group.members).filter fun p => p.key = key

theorem membersOf_cons (key : GovernanceKey) (g : Group) (gs : List Group) :
    membersOf key (g :: gs) = g.members.filter (fun p => p.key = key) ++ membersOf key gs := by
  rw [membersOf, List.flatMap_cons, List.filter_append]
  rfl

/-- Where no group is one of a key, no member has it. -/
theorem Grouped.membersOf_eq_nil (h : Grouped gs) {key : GovernanceKey}
    (hkey : ∀ g ∈ gs, g.key ≠ key) : membersOf key gs = [] := by
  refine List.filter_eq_nil_iff.2 fun p hp => ?_
  obtain ⟨g, hg, hpg⟩ := List.mem_flatMap.1 hp
  rw [decide_eq_true_eq, h.key_eq g hg p hpg]
  exact hkey g hg

/-- The groups behind the first are of other keys. -/
theorem Grouped.key_ne {g : Group} (h : Grouped (g :: gs)) : ∀ k ∈ gs, k.key ≠ g.key := by
  intro k hk he
  have hlt := List.rel_of_pairwise_cons h.increasing hk
  rw [he] at hlt
  exact List.lt_irrefl _ hlt

/-- A state and other members may change places when none of these has its key. -/
private theorem filter_singleton_append_comm {key : GovernanceKey} {others : List ProblemState}
    (h : p.key = key → others = []) :
    [p].filter (fun p => p.key = key) ++ others = others ++ [p].filter fun p => p.key = key := by
  by_cases hp : p.key = key
  · rw [h hp, List.append_nil, List.nil_append]
  · rw [List.filter_cons_of_neg (by simpa using hp), List.filter_nil, List.append_nil,
      List.nil_append]

/-- A new state stands behind all others of its key. -/
theorem Grouped.membersOf_place (h : Grouped gs) (key : GovernanceKey) :
    membersOf key (place p gs) = membersOf key gs ++ [p].filter fun p => p.key = key := by
  fun_induction place p gs with
  | case1 => rfl
  | case2 g rest hkey =>
    have hrest (hp : p.key = key) : membersOf key rest = [] :=
      h.of_cons.membersOf_eq_nil (hp ▸ hkey ▸ h.key_ne)
    rw [membersOf_cons, membersOf_cons, List.filter_append, List.append_assoc, List.append_assoc,
      filter_singleton_append_comm hrest]
  | case3 g rest hkey hlt =>
    have hgs (hp : p.key = key) : membersOf key (g :: rest) = [] := by
      refine h.membersOf_eq_nil fun k hk he => ?_
      rcases List.mem_cons.1 hk with rfl | hk
      · exact hkey (hp.trans he.symm)
      · have hgt := List.lt_trans hlt (List.rel_of_pairwise_cons h.increasing hk)
        rw [he, hp] at hgt
        exact List.lt_irrefl _ hgt
    exact (membersOf_cons ..).trans (filter_singleton_append_comm hgs)
  | case4 g rest hkey hlt ih =>
    rw [membersOf_cons, membersOf_cons, ih h.of_cons, List.append_assoc]

theorem Grouped.membersOf_key (h : Grouped gs) {g : Group} (hg : g ∈ gs) :
    membersOf g.key gs = g.members := by
  induction gs with
  | nil => exact absurd hg (by simp)
  | cons k rest ih =>
    rw [membersOf_cons]
    rcases List.mem_cons.1 hg with rfl | hg
    · have hall : g.members.filter (fun p => p.key = g.key) = g.members :=
        List.filter_eq_self.2 fun p hp => decide_eq_true (h.key_eq g List.mem_cons_self p hp)
      rw [hall, h.of_cons.membersOf_eq_nil h.key_ne, List.append_nil]
    · have hnone : k.members.filter (fun p => p.key = g.key) = [] := by
        refine List.filter_eq_nil_iff.2 fun p hp => ?_
        rw [decide_eq_true_eq, h.key_eq k List.mem_cons_self p hp]
        exact (h.key_ne g hg).symm
      rw [hnone, List.nil_append, ih h.of_cons hg]

/-! ### A batch -/

private theorem grouped_foldl (h : Grouped gs) :
    Grouped (states.foldl (fun groups p => place p groups) gs) := by
  induction states generalizing gs with
  | nil => exact h
  | cons p rest ih => exact ih (grouped_place h)

theorem grouped_groups (states : List ProblemState) : Grouped (groups states) :=
  grouped_foldl ⟨by simp, .nil⟩

private theorem flatMap_members_foldl :
    ((states.foldl (fun groups p => place p groups) gs).flatMap Group.members).Perm
      (states ++ gs.flatMap Group.members) := by
  induction states generalizing gs with
  | nil => exact .refl _
  | cons p rest ih =>
    rw [List.foldl_cons, List.cons_append]
    exact ih.trans ((flatMap_members_place.append_left rest).trans List.perm_middle)

/-- **No state of a batch is lost or doubled by grouping.** -/
theorem flatMap_members_groups (states : List ProblemState) :
    ((groups states).flatMap Group.members).Perm states := by
  have h := @flatMap_members_foldl [] states
  rwa [List.flatMap_nil, List.append_nil] at h

private theorem membersOf_foldl (h : Grouped gs) (key : GovernanceKey) :
    membersOf key (states.foldl (fun groups p => place p groups) gs) =
      membersOf key gs ++ states.filter fun p => p.key = key := by
  induction states generalizing gs with
  | nil => exact (List.append_nil _).symm
  | cons p rest ih =>
    have hcons : (p :: rest).filter (fun p => p.key = key) =
        [p].filter (fun p => p.key = key) ++ rest.filter fun p => p.key = key :=
      List.filter_append [p] rest
    rw [List.foldl_cons, ih (grouped_place h), h.membersOf_place, hcons, List.append_assoc]

/-- **A group holds the states of its key in the order of the batch.** -/
theorem members_eq_filter {g : Group} (hg : g ∈ groups states) :
    g.members = states.filter fun p => p.key = g.key := by
  rw [← (grouped_groups states).membersOf_key hg]
  exact membersOf_foldl ⟨by simp, .nil⟩ g.key

private theorem key_of_mem_foldl {g : Group}
    (hg : g ∈ states.foldl (fun groups p => place p groups) gs) :
    (∃ p ∈ states, p.key = g.key) ∨ ∃ h ∈ gs, h.key = g.key := by
  induction states generalizing gs with
  | nil => exact .inr ⟨g, hg, rfl⟩
  | cons p rest ih =>
    rcases ih hg with ⟨q, hq, hkey⟩ | ⟨h, hh, hkey⟩
    · exact .inl ⟨q, List.mem_cons_of_mem _ hq, hkey⟩
    · rcases key_of_mem_place hh with hp | ⟨k, hk, he⟩
      · exact .inl ⟨p, List.mem_cons_self, hp.symm.trans hkey⟩
      · exact .inr ⟨k, hk, he.trans hkey⟩

/-- There is a group of each key that occurs, and of no other. -/
theorem mem_map_key_groups_iff {key : GovernanceKey} :
    key ∈ (groups states).map Group.key ↔ key ∈ states.map ProblemState.key := by
  simp only [List.mem_map]
  constructor
  · rintro ⟨g, hg, rfl⟩
    rcases key_of_mem_foldl hg with h | ⟨h, hh, -⟩
    · exact h
    · exact absurd hh List.not_mem_nil
  · rintro ⟨p, hp, rfl⟩
    have hmem : p ∈ (groups states).flatMap Group.members :=
      (flatMap_members_groups states).mem_iff.2 hp
    obtain ⟨g, hg, hpg⟩ := List.mem_flatMap.1 hmem
    exact ⟨g, hg, ((grouped_groups states).key_eq g hg p hpg).symm⟩

theorem key_mem_map_key_groups (hp : p ∈ states) : p.key ∈ (groups states).map Group.key :=
  mem_map_key_groups_iff.2 (List.mem_map_of_mem hp)

/-- **The group of a state holds exactly the states that agree with it.** -/
theorem exists_group (hp : p ∈ states) :
    ∃ g ∈ groups states, ∀ q, q ∈ g.members ↔ q ∈ states ∧ q.key = p.key := by
  obtain ⟨g, hg, hkey⟩ := List.mem_map.1 (key_mem_map_key_groups hp)
  refine ⟨g, hg, fun q => ?_⟩
  rw [members_eq_filter hg, List.mem_filter, decide_eq_true_eq, hkey]

/-- The keys of the groups strictly increase. -/
theorem increasing_map_key_groups (states : List ProblemState) :
    ((groups states).map Group.key).Pairwise fun k l => k.parts < l.parts :=
  List.pairwise_map.2 (grouped_groups states).increasing

/-- Strictly increasing keys are known from their members. -/
theorem eq_of_increasing {keys others : List GovernanceKey}
    (hkeys : keys.Pairwise fun k l => k.parts < l.parts)
    (hothers : others.Pairwise fun k l => k.parts < l.parts)
    (h : ∀ key, key ∈ keys ↔ key ∈ others) : keys = others := by
  have hnodup {l : List GovernanceKey} (hl : l.Pairwise fun k l => k.parts < l.parts) :
      l.Nodup := by
    refine hl.imp fun {k l} hlt he => ?_
    rw [he] at hlt
    exact List.lt_irrefl _ hlt
  have hperm : keys.Perm others := (List.perm_ext_iff_of_nodup (hnodup hkeys) (hnodup hothers)).2 h
  exact hperm.eq_of_pairwise (fun k l _ _ hkl hlk => absurd hlk (List.lt_asymm hkl)) hkeys hothers

/-- **Batches in which the same keys occur have groups of the same keys**, in the same order. -/
theorem map_key_groups_eq {a b : List ProblemState}
    (h : ∀ key, key ∈ a.map ProblemState.key ↔ key ∈ b.map ProblemState.key) :
    (groups a).map Group.key = (groups b).map Group.key := by
  refine eq_of_increasing (increasing_map_key_groups a) (increasing_map_key_groups b) fun key => ?_
  rw [mem_map_key_groups_iff, mem_map_key_groups_iff, h key]

/-- Of increasing keys among which all of a batch are, its groups have those that occur in it. -/
theorem map_key_groups_eq_filter {keys : List GovernanceKey}
    (hkeys : keys.Pairwise fun k l => k.parts < l.parts) (hall : ∀ p ∈ states, p.key ∈ keys) :
    (groups states).map Group.key = keys.filter fun key => key ∈ states.map ProblemState.key := by
  refine eq_of_increasing (increasing_map_key_groups states) (hkeys.filter _) fun key => ?_
  rw [mem_map_key_groups_iff, List.mem_filter, decide_eq_true_eq]
  refine ⟨fun h => ⟨?_, h⟩, And.right⟩
  obtain ⟨p, hp, rfl⟩ := List.mem_map.1 h
  exact hall p hp

/-- The ids of a group do not repeat when those of the batch do not. -/
theorem nodup_of_mem_groups (hn : (states.map ProblemState.id).Nodup) {g : Group}
    (hg : g ∈ groups states) : (g.members.map ProblemState.id).Nodup := by
  rw [members_eq_filter hg]
  exact hn.sublist (List.filter_sublist.map ProblemState.id)

end Lifecycle

end ControlPlane
