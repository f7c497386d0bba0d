import ControlPlane.Condition.Basic

/-!
# Conditions as trees

A condition is a node with conditions below it. What the library says of conditions by recursion is
said here of all their nodes, at any depth.

## Main definitions

* `Condition.IsPart` : a condition stands somewhere in another one.
* `Condition.path?` : the path that a node itself reads.
* `Condition.WellFormed` : no text and no list of a condition is empty.

## Main statements

* `Condition.WellFormed.of_isPart` : what stands in a well-formed condition is well formed.
* `Condition.mem_paths_iff` : the collected paths are those that some node reads.
-/

namespace ControlPlane.Condition

/-- A condition is another one or stands below it. -/
inductive IsPart (part : Condition) : Condition → Prop
  | whole : IsPart part part
  | all {children : List Condition} {c : Condition} (hc : c ∈ children) (h : IsPart part c) :
      IsPart part (.all children)
  | any {children : List Condition} {c : Condition} (hc : c ∈ children) (h : IsPart part c) :
      IsPart part (.any children)
  | not {c : Condition} (h : IsPart part c) : IsPart part (.not c)

/-- The path that a node reads, leaving out the nodes below it. -/
def path? : Condition → Option String
  | .fieldEq path _ | .fieldIn path _ | .fieldExists path | .setIntersects path _ => some path
  | .windowMatch | .all _ | .any _ | .not _ => none

/-- Every path and every text that a condition compares with has a character, and every list of texts
or conditions has an item. -/
inductive WellFormed : Condition → Prop
  | fieldEq {path value : String} (hp : path ≠ "") (hv : value ≠ "") :
      WellFormed (.fieldEq path value)
  | fieldIn {path : String} {values : List String} (hp : path ≠ "") (hne : values ≠ [])
      (hv : ∀ s ∈ values, s ≠ "") : WellFormed (.fieldIn path values)
  | fieldExists {path : String} (hp : path ≠ "") : WellFormed (.fieldExists path)
  | setIntersects {path : String} {values : List String} (hp : path ≠ "") (hne : values ≠ [])
      (hv : ∀ s ∈ values, s ≠ "") : WellFormed (.setIntersects path values)
  | windowMatch : WellFormed .windowMatch
  | all {children : List Condition} (hne : children ≠ []) (h : ∀ c ∈ children, WellFormed c) :
      WellFormed (.all children)
  | any {children : List Condition} (hne : children ≠ []) (h : ∀ c ∈ children, WellFormed c) :
      WellFormed (.any children)
  | not {child : Condition} (h : WellFormed child) : WellFormed (.not child)

/-- What stands in a well-formed condition is well formed. -/
theorem WellFormed.of_isPart {part c : Condition} (h : c.WellFormed) (hpart : IsPart part c) :
    part.WellFormed := by
  induction hpart with
  | whole => exact h
  | all hc _ ih =>
    cases h with
    | all _ hchildren => exact ih (hchildren _ hc)
  | any hc _ ih =>
    cases h with
    | any _ hchildren => exact ih (hchildren _ hc)
  | not _ ih =>
    cases h with
    | not hchild => exact ih hchild

theorem pathsOfList_eq_flatMap (children : List Condition) :
    pathsOfList children = children.flatMap paths := by
  induction children with
  | nil => rfl
  | cons c rest ih => rw [pathsOfList, ih, List.flatMap_cons]

theorem toJsonList_eq_map (children : List Condition) :
    toJsonList children = children.map toJson := by
  induction children with
  | nil => rfl
  | cons c rest ih => rw [toJsonList, ih, List.map_cons]

/-! ### The paths of a condition -/

theorem mem_paths_of_isPart {part c : Condition} {path : String} (h : IsPart part c)
    (hp : part.path? = some path) : path ∈ c.paths := by
  induction h with
  | whole => cases part <;> simp_all [path?, paths]
  | all hc _ ih | any hc _ ih =>
    rw [paths, pathsOfList_eq_flatMap]
    exact List.mem_flatMap.2 ⟨_, hc, ih⟩
  | not _ ih => rwa [paths]

mutual

theorem exists_isPart_of_mem_paths : (c : Condition) → {path : String} → path ∈ c.paths →
    ∃ part, IsPart part c ∧ part.path? = some path
  | .fieldEq .., path, h | .fieldIn .., path, h | .fieldExists _, path, h
  | .setIntersects .., path, h => by
    obtain rfl : path = _ := List.mem_singleton.1 h
    exact ⟨_, .whole, rfl⟩
  | .windowMatch, path, h => absurd h (by simp [paths])
  | .all children, path, h => by
    obtain ⟨c, hc, part, hpart, hp⟩ := exists_isPart_of_mem_pathsOfList children h
    exact ⟨part, .all hc hpart, hp⟩
  | .any children, path, h => by
    obtain ⟨c, hc, part, hpart, hp⟩ := exists_isPart_of_mem_pathsOfList children h
    exact ⟨part, .any hc hpart, hp⟩
  | .not child, path, h => by
    obtain ⟨part, hpart, hp⟩ := exists_isPart_of_mem_paths child h
    exact ⟨part, .not hpart, hp⟩

theorem exists_isPart_of_mem_pathsOfList : (children : List Condition) → {path : String} →
    path ∈ pathsOfList children →
    ∃ c ∈ children, ∃ part, IsPart part c ∧ part.path? = some path
  | [], path, h => absurd h (by simp [pathsOfList])
  | c :: rest, path, h => by
    rcases List.mem_append.1 h with h | h
    · exact ⟨c, List.mem_cons_self, exists_isPart_of_mem_paths c h⟩
    · obtain ⟨d, hd, hpart⟩ := exists_isPart_of_mem_pathsOfList rest h
      exact ⟨d, List.mem_cons_of_mem _ hd, hpart⟩

end

/-- **The collected paths of a condition are those that some node of it reads.** -/
theorem mem_paths_iff {c : Condition} {path : String} :
    path ∈ c.paths ↔ ∃ part, IsPart part c ∧ part.path? = some path :=
  ⟨exists_isPart_of_mem_paths c, fun ⟨_, h, hp⟩ => mem_paths_of_isPart h hp⟩

/-- What is said of the collected paths is said of each node that reads a path. -/
theorem forall_mem_paths_iff {c : Condition} {P : String → Prop} :
    (∀ path ∈ c.paths, P path) ↔
      ∀ part : Condition, part.IsPart c → ∀ path, part.path? = some path → P path := by
  constructor
  · intro h part hpart path hpath
    exact h path (mem_paths_of_isPart hpart hpath)
  · intro h path hpath
    obtain ⟨part, hpart, hread⟩ := mem_paths_iff.1 hpath
    exact h part hpart path hread

theorem mem_fieldPaths_iff {c : Condition} {path : String} :
    path ∈ c.fieldPaths ↔ ∃ part, IsPart part c ∧ part.path? = some path :=
  KeySet.mem_ofList.trans mem_paths_iff

end ControlPlane.Condition
