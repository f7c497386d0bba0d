import ControlPlane.Condition.Reader
import ControlPlane.Proofs.Json.Pointer
import ControlPlane.Proofs.Sequencing

/-!
# Where conditions are refused

The reader refuses a document for a fault of one of its nodes. It names the node by the way down to
it, and the node alone is refused for the same cause. Wherever the way goes through a list, the nodes
in front of it are conditions, so that no fault stands further to the left.

## Main definitions

* `Condition.RefusesWhole` : a reading that finds fault with the outermost node only.
* `Condition.Descent` : the way of the reader to a node, past nodes that it reads.

## Main statements

* `Condition.of_ofJson_object_eq_error` : what a refusal of an object comes from.
* `Condition.exists_descent` : every refusal comes from a node to which the reader descends.
* `Condition.fault_located` : the place that a refusal names.
-/

namespace ControlPlane.Condition

variable {α β : Type} {members : Members} {e : ShapeError}

/-! ### Faults of the outermost node -/

/-- A reading that finds fault with the outermost node only. -/
def RefusesWhole (x : Except ShapeError α) : Prop := ∀ e, x = .error e → e.path = []

theorem refusesWhole_refuse (reason : ShapeReason) :
    RefusesWhole (refuse reason : Except ShapeError α) := by
  rintro _ ⟨⟩
  rfl

theorem refusesWhole_ok (a : α) : RefusesWhole (.ok a) := by
  rintro _ ⟨⟩

theorem RefusesWhole.bind {x : Except ShapeError α} {f : α → Except ShapeError β}
    (hx : RefusesWhole x) (hf : ∀ a, RefusesWhole (f a)) : RefusesWhole (x >>= f) := by
  intro e h
  rcases bind_eq_error.1 h with h | ⟨a, -, h⟩
  · exact hx e h
  · exact hf a e h

theorem refusesWhole_onlyKeys (allowed : List String) : RefusesWhole (onlyKeys members allowed) := by
  rw [onlyKeys]
  split
  · exact refusesWhole_refuse _
  · exact refusesWhole_ok _

theorem refusesWhole_textOf (key : String) : RefusesWhole (textOf members key) := by
  rw [textOf]
  split
  · exact refusesWhole_ok _
  · exact refusesWhole_refuse _

theorem refusesWhole_textsOf (items : List Json) : RefusesWhole (textsOf items) := by
  induction items with
  | nil => exact refusesWhole_ok _
  | cons v rest ih =>
    rw [textsOf]
    split
    · exact ih.bind fun _ => refusesWhole_ok _
    · exact refusesWhole_refuse _

theorem refusesWhole_valuesOf : RefusesWhole (valuesOf members) := by
  rw [valuesOf]
  split
  · exact refusesWhole_textsOf _
  · exact refusesWhole_refuse _

/-! ### Faults further down -/

/-- The first item that is refused stands behind items that are read. -/
theorem exists_item_of_ofItems_eq_error {index : Nat} {items : List Json}
    (h : ofItems index items = .error e) :
    ∃ before item after d, items = before ++ item :: after ∧
      (∀ u ∈ before, ∃ c, ofJson u = .ok c) ∧ ofJson item = .error d ∧
      e = d.under [.key "children", .index (index + before.length)] := by
  induction items generalizing index with
  | nil => exact absurd h (by simp [ofItems])
  | cons v rest ih =>
    rw [ofItems] at h
    rcases bind_eq_error.1 h with h | ⟨c, hc, h⟩
    · obtain ⟨d, hd, rfl⟩ := mapError_eq_error.1 h
      exact ⟨[], v, rest, d, rfl, by simp, hd, rfl⟩
    · rcases bind_eq_error.1 h with h | ⟨_, -, h⟩
      · obtain ⟨before, item, after, d, rfl, hbefore, hd, rfl⟩ := ih h
        refine ⟨v :: before, item, after, d, rfl,
          List.forall_mem_cons.2 ⟨⟨c, mapError_eq_ok.1 hc⟩, hbefore⟩, hd, ?_⟩
        rw [List.length_cons, Nat.add_right_comm]
        rfl
      · exact absurd h (by simp [pure, Except.pure])

theorem of_childOf_eq_error (h : childOf members = .error e) :
    e.path = [] ∨ ∃ child d, Members.get? members "child" = some child ∧ ofJson child = .error d ∧
      e = d.under [.key "child"] := by
  induction members with
  | nil => exact .inl (refusesWhole_refuse _ e h)
  | cons m rest ih =>
    obtain ⟨k, v⟩ := m
    rw [childOf] at h
    rw [Members.get?_cons]
    by_cases hk : k = "child"
    · rw [if_pos hk] at h ⊢
      obtain ⟨d, hd, rfl⟩ := mapError_eq_error.1 h
      exact .inr ⟨v, d, rfl, hd, rfl⟩
    · rw [if_neg hk] at h ⊢
      exact ih h

theorem of_childrenOf_eq_error (h : childrenOf members = .error e) :
    e.path = [] ∨ ∃ before item after d,
      Members.get? members "children" = some (.array (before ++ item :: after)) ∧
      (∀ u ∈ before, ∃ c, ofJson u = .ok c) ∧ ofJson item = .error d ∧
      e = d.under [.key "children", .index before.length] := by
  induction members with
  | nil => exact .inl (refusesWhole_refuse _ e h)
  | cons m rest ih =>
    obtain ⟨k, v⟩ := m
    rw [Members.get?_cons]
    by_cases hk : k = "children"
    · rw [if_pos hk]
      cases v with
      | array items =>
        rw [childrenOf, if_pos hk] at h
        split at h
        · exact .inl (refusesWhole_refuse _ e h)
        · obtain ⟨before, item, after, d, rfl, hbefore, hd, rfl⟩ := exists_item_of_ofItems_eq_error h
          exact .inr ⟨before, item, after, d, rfl, hbefore, hd, by rw [Nat.zero_add]⟩
      | _ =>
        simp only [childrenOf, if_pos hk] at h
        exact .inl (refusesWhole_refuse _ e h)
    · rw [if_neg hk]
      refine ih ?_
      cases v <;> simpa [childrenOf, hk] using h

/-- A node with nodes below it: its keys are its own, and what is refused otherwise stands below. -/
theorem of_below_eq_error {allowed : List String} {below : Except ShapeError α} {f : α → Condition}
    (h : (do onlyKeys members allowed; return f (← below)) = .error e) :
    e.path = [] ∨ below = .error e := by
  rcases bind_eq_error.1 h with h | ⟨-, -, h⟩
  · exact .inl (refusesWhole_onlyKeys _ e h)
  · rcases bind_eq_error.1 h with h | ⟨a, -, h⟩
    · exact .inr h
    · exact absurd h (by simp [pure, Except.pure])

/-- **A refusal of an object is for a fault of its own, or comes from its child or its children.** -/
theorem of_ofJson_object_eq_error (h : ofJson (.object members) = .error e) :
    e.path = [] ∨ childOf members = .error e ∨ childrenOf members = .error e := by
  rw [ofJson] at h
  split at h
  · exact .inl (refusesWhole_refuse _ e h)
  · split at h
    · exact .inl (refusesWhole_refuse _ e h)
    · exact .inl ((refusesWhole_onlyKeys _).bind (fun _ => (refusesWhole_textOf _).bind fun _ =>
        (refusesWhole_textOf _).bind fun _ => refusesWhole_ok _) e h)
    · exact .inl ((refusesWhole_onlyKeys _).bind (fun _ => (refusesWhole_textOf _).bind fun _ =>
        refusesWhole_valuesOf.bind fun _ => refusesWhole_ok _) e h)
    · exact .inl ((refusesWhole_onlyKeys _).bind (fun _ => (refusesWhole_textOf _).bind fun _ =>
        refusesWhole_ok _) e h)
    · exact .inl ((refusesWhole_onlyKeys _).bind (fun _ => (refusesWhole_textOf _).bind fun _ =>
        refusesWhole_valuesOf.bind fun _ => refusesWhole_ok _) e h)
    · exact .inl ((refusesWhole_onlyKeys _).bind (fun _ => refusesWhole_ok _) e h)
    · exact (of_below_eq_error h).imp_right .inr
    · split at h
      · exact (of_below_eq_error h).imp_right .inr
      · exact (of_below_eq_error h).imp_right .inl
      · exact .inl (refusesWhole_refuse _ e h)

/-! ### The way down -/

/-- The way of the reader from a document down to one of its nodes. In front of the node of a list
that it goes on with it has read every node. -/
inductive Descent (node : Json) : Json → Json.Path → Prop
  | whole : Descent node node []
  | child {members : Members} {child : Json} {path : Json.Path}
      (hget : Members.get? members "child" = some child) (h : Descent node child path) :
      Descent node (.object members) (.key "child" :: path)
  | item {members : Members} {before after : List Json} {item : Json} {path : Json.Path}
      (hget : Members.get? members "children" = some (.array (before ++ item :: after)))
      (hbefore : ∀ u ∈ before, ∃ c, ofJson u = .ok c) (h : Descent node item path) :
      Descent node (.object members) (.key "children" :: .index before.length :: path)

/-- **Every refusal comes from a node to which the reader descends**, and which it refuses for the same
cause when it stands alone. -/
theorem exists_descent : (v : Json) → {e : ShapeError} → ofJson v = .error e →
    ∃ node, Descent node v e.path ∧ ofJson node = .error ⟨[], e.reason⟩
  | .object members, e, h => by
    have hwhole (hpath : e.path = []) : ∃ node, Descent node (.object members) e.path ∧
        ofJson node = .error ⟨[], e.reason⟩ := by
      obtain ⟨path, reason⟩ := e
      obtain rfl : path = [] := hpath
      exact ⟨_, .whole, h⟩
    rcases of_ofJson_object_eq_error h with hpath | hchild | hchildren
    · exact hwhole hpath
    · rcases of_childOf_eq_error hchild with hpath | ⟨child, d, hget, hd, rfl⟩
      · exact hwhole hpath
      · obtain ⟨node, hdescent, hnode⟩ := exists_descent child hd
        exact ⟨node, .child hget hdescent, hnode⟩
    · rcases of_childrenOf_eq_error hchildren with hpath | ⟨before, item, after, d, hget, hbefore, hd, rfl⟩
      · exact hwhole hpath
      · obtain ⟨node, hdescent, hnode⟩ := exists_descent item hd
        exact ⟨node, .item hget hbefore hdescent, hnode⟩
  | .null, e, h | .bool _, e, h | .integer _, e, h | .float _, e, h | .string _, e, h
  | .array _, e, h => by
    obtain rfl : _ = e := Except.error.inj h
    exact ⟨_, .whole, rfl⟩
termination_by v => sizeOf v
decreasing_by
  · exact Json.sizeOf_lt_of_get? hget
  · exact (Json.sizeOf_lt_of_mem (by simp)).trans (Json.sizeOf_lt_of_get? hget)

variable {v node : Json} {path : Json.Path}

theorem at?_child {child : Json} (hget : Members.get? members "child" = some child)
    (path : Json.Path) : (Json.object members).at? (.key "child" :: path) = child.at? path := by
  rw [Json.at?_cons, Json.step?, hget, Option.bind_some]

theorem at?_item {before after : List Json} {item : Json}
    (hget : Members.get? members "children" = some (.array (before ++ item :: after)))
    (path : Json.Path) :
    (Json.object members).at? (.key "children" :: .index before.length :: path) = item.at? path := by
  have hitem : (before ++ item :: after)[before.length]? = some item := by simp
  rw [Json.at?_cons, Json.step?, hget, Option.bind_some, Json.at?_cons, Json.step?, hitem,
    Option.bind_some]

/-- The way leads to the node. -/
theorem Descent.at? (h : Descent node v path) : v.at? path = some node := by
  induction h with
  | whole => rfl
  | child hget _ ih => rw [at?_child hget, ih]
  | item hget _ _ ih => rw [at?_item hget, ih]

/-- Where the way goes through a list, every node in front of the next is read. -/
theorem Descent.read_before (h : Descent node v path) {above below : Json.Path} {position : Nat}
    (hpath : path = above ++ .key "children" :: .index position :: below) :
    ∃ items, v.at? (above ++ [.key "children"]) = some (.array items) ∧
      ∀ u ∈ items.take position, ∃ c, ofJson u = .ok c := by
  induction h generalizing above with
  | whole => exact absurd hpath (by simp)
  | @child members child path hget _ ih =>
    cases above with
    | nil => exact absurd hpath (by simp)
    | cons step above =>
      rw [List.cons_append, List.cons.injEq] at hpath
      obtain ⟨rfl, hpath⟩ := hpath
      rw [List.cons_append, at?_child hget]
      exact ih hpath
  | @item members before after item path hget hbefore _ ih =>
    match above with
    | [] =>
      obtain ⟨hposition, -⟩ : before.length = position ∧ path = below := by simpa using hpath
      refine ⟨before ++ item :: after, ?_, ?_⟩
      · rw [List.nil_append, Json.at?_cons, Json.step?, hget]
        rfl
      · rwa [← hposition, List.take_left]
    | [step] => exact absurd hpath (by simp)
    | step :: index :: above =>
      simp only [List.cons_append, List.cons.injEq] at hpath
      obtain ⟨rfl, rfl, hpath⟩ := hpath
      rw [List.cons_append, List.cons_append, at?_item hget]
      exact ih hpath

/-- **A refusal names the first node that is at fault.** The place in its wording is the whole document
or the JSON pointer of a node, which is refused for the same cause when it stands alone; and wherever
the pointer goes through a list, every node in front of the next is a condition. -/
theorem fault_located (h : ofJson v = .error e) :
    ∃ node, (e.path.location = Json.rootLocation ∧ node = v ∨
        v.atPointer? e.path.location = some node) ∧
      v.at? e.path = some node ∧ ofJson node = .error ⟨[], e.reason⟩ ∧
      ∀ above position below, e.path = above ++ .key "children" :: .index position :: below →
        ∃ items, v.at? (above ++ [.key "children"]) = some (.array items) ∧
          ∀ u ∈ items.take position, ∃ c, ofJson u = .ok c := by
  obtain ⟨node, hdescent, hnode⟩ := exists_descent v h
  refine ⟨node, ?_, hdescent.at?, hnode, fun _ _ _ hpath => hdescent.read_before hpath⟩
  have hplace := hdescent.at?
  cases hpath : e.path with
  | nil =>
    rw [hpath] at hplace
    exact .inl ⟨rfl, (Option.some.inj hplace).symm⟩
  | cons step rest => exact .inr (Json.atPointer?_pointer (hpath ▸ hplace))

/-- A conjunction whose second node negates a comparison with no texts, and whose third is no object. -/
def faultyDocument : Json :=
  .object [("children", .array [windowMatch.toJson, (not (.fieldIn "problem_state.risk" [])).toJson,
    .null]), templateMember .logicalAnd]

/-- Where the comparison stands. -/
def faultyPlace : Json.Path := [.key "children", .index 1, .key "child"]

theorem fault_located_faultyDocument :
    ofJson faultyDocument = .error ⟨faultyPlace, .valuesNotList⟩ ∧
      faultyPlace.location = "/children/1/child" ∧
      ∃ node, faultyDocument.atPointer? "/children/1/child" = some node ∧
        ofJson node = .error ⟨[], .valuesNotList⟩ ∧ ∃ c, ofJson windowMatch.toJson = .ok c := by
  have hrefused : ofJson faultyDocument = .error ⟨faultyPlace, .valuesNotList⟩ := rfl
  have hlocation : faultyPlace.location = "/children/1/child" := by decide
  obtain ⟨node, hplace, -, hnode, hbefore⟩ := fault_located hrefused
  obtain ⟨items, hitems, hread⟩ := hbefore [] 1 [.key "child"] rfl
  obtain rfl : _ = items := Json.array.inj (Option.some.inj hitems)
  refine ⟨hrefused, hlocation, node, ?_, hnode, hread _ List.mem_cons_self⟩
  rw [← hlocation]
  exact hplace.resolve_left fun hroot => absurd hroot.1 (by decide)

end ControlPlane.Condition
