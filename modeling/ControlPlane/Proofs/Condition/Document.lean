import ControlPlane.Condition.Reader
import ControlPlane.Proofs.Condition.Tree
import ControlPlane.Proofs.Schema.Acceptance
import ControlPlane.Proofs.Sequencing

/-!
# Conditions in documents

The schema of conditions accepts exactly the document forms of well-formed conditions, and the reader
gives back the condition that was written.

## Main statements

* `Condition.wellFormed_toJson` : the document form of a condition is a well-formed value.
* `RulesetSchema.exists_toJson_of_accepts`, `RulesetSchema.accepts_toJson` : the schema accepts the
  document forms of well-formed conditions and nothing else.
* `Condition.ofJson_toJson` : what was written is read back.
-/

namespace ControlPlane

open Constraint

/-! ### Document forms are well formed -/

namespace Condition

theorem wellFormed_textList (values : List String) : (textList values).WellFormed :=
  Json.wellFormed_array_map fun _ _ => trivial

mutual

theorem wellFormed_toJson : (c : Condition) → c.toJson.WellFormed
  | .fieldEq path value => by
    rw [toJson, Json.WellFormed]
    exact ⟨Members.sorted_of_keys ["field_path", "template_id", "value"] rfl (by decide),
      trivial, trivial, trivial, trivial⟩
  | .fieldIn path values | .setIntersects path values => by
    rw [toJson, Json.WellFormed]
    exact ⟨Members.sorted_of_keys ["field_path", "template_id", "values"] rfl (by decide),
      trivial, trivial, wellFormed_textList values, trivial⟩
  | .fieldExists path => by
    rw [toJson, Json.WellFormed]
    exact ⟨Members.sorted_of_keys ["field_path", "template_id"] rfl (by decide),
      trivial, trivial, trivial⟩
  | .windowMatch => by
    rw [toJson, Json.WellFormed]
    exact ⟨Members.sorted_of_keys ["template_id"] rfl (by decide), trivial, trivial⟩
  | .all children => by
    rw [toJson, Json.WellFormed]
    exact ⟨Members.sorted_of_keys ["children", "template_id"] rfl (by decide),
      wellFormed_toJsonList children, trivial, trivial⟩
  | .any children => by
    rw [toJson, Json.WellFormed]
    exact ⟨Members.sorted_of_keys ["children", "op", "template_id"] rfl (by decide),
      wellFormed_toJsonList children, trivial, trivial, trivial⟩
  | .not child => by
    rw [toJson, Json.WellFormed]
    exact ⟨Members.sorted_of_keys ["child", "op", "template_id"] rfl (by decide),
      wellFormed_toJson child, trivial, trivial, trivial⟩

theorem wellFormed_toJsonList : (children : List Condition) →
    (Json.array (toJsonList children)).WellFormed
  | [] => trivial
  | c :: rest => by
    have hrest := wellFormed_toJsonList rest
    rw [Json.WellFormed] at hrest ⊢
    exact ⟨wellFormed_toJson c, hrest⟩

end

end Condition

/-! ### The schema -/

namespace RulesetSchema

variable {v : Json}

theorem accepts_nonEmptyString_iff :
    accepts definitions v (definitions .nonEmptyString) = true ↔ ∃ s, v = .string s ∧ s ≠ "" :=
  accepts_filled_iff

theorem accepts_enumSet_iff :
    accepts definitions v (definitions .enumSet) = true ↔
      ∃ values, v = Condition.textList values ∧ values ≠ [] ∧ ∀ s ∈ values, s ≠ "" :=
  accepts_nonEmptyList_iff fun _ _ _ _ => accepts_nonEmptyString_iff

/-! ### Properties of condition shapes -/

variable {members : Members}

theorem holds_nonEmptyString_iff {key : String} :
    Holds definitions members (key, .ref .nonEmptyString) ↔
      ∃ s, Members.get? members key = some (.string s) ∧ s ≠ "" :=
  holds_iff fun _ _ => accepts_nonEmptyString_iff

theorem holds_enumSet_iff {key : String} :
    Holds definitions members (key, .ref .enumSet) ↔
      ∃ values, Members.get? members key = some (Condition.textList values) ∧ values ≠ [] ∧
        ∀ s ∈ values, s ≠ "" :=
  holds_iff fun _ _ => accepts_enumSet_iff

theorem holds_constant_iff {key text : String} :
    Holds definitions members (key, .inline (.constant text)) ↔
      Members.get? members key = some (.string text) := by
  simp only [Holds, Schema.resolve, accepts_constant_iff, exists_eq_right]

/-! ### Conditions -/

theorem conditionShapes_exclude :
    conditionShapes.Pairwise fun a b => ¬ Overlap definitions a b :=
  (by decide : conditionShapes.Pairwise fun a b =>
    RecordShape.differ ["template_id", "op"] a b = true).imp fun h =>
      not_overlap_of_differ (.of_differ h)

theorem holds_child_of_get? {c : Condition} (hc : Members.get? members "child" = some c.toJson)
    (ha : accepts definitions c.toJson (definitions .templateExpr) = true) :
    Holds definitions members ("child", .ref .templateExpr) :=
  ⟨_, hc, ha⟩

theorem holds_children_of_get? {cs : List Condition}
    (hl : Members.get? members "children" = some (.array (Condition.toJsonList cs))) (hne : cs ≠ [])
    (ha : ∀ c ∈ cs, accepts definitions c.toJson (definitions .templateExpr) = true) :
    Holds definitions members children := by
  refine ⟨_, hl, accepts_list_iff.2 ⟨_, rfl, ?_⟩⟩
  rw [Condition.toJsonList_eq_map, List.length_map]
  exact ⟨List.length_pos_iff.2 hne, List.forall_mem_map.2 ha⟩

/-- An object of one of the eight shapes is the document form of a well-formed condition, provided
that the conditions below it are. -/
theorem exists_toJson_of_shape {shape : RecordShape Name} (hs : Members.Sorted members)
    (hchild : Holds definitions members ("child", .ref .templateExpr) →
      ∃ c : Condition, Members.get? members "child" = some c.toJson ∧ c.WellFormed)
    (hchildren : Holds definitions members children → ∃ cs : List Condition,
      Members.get? members "children" = some (.array (Condition.toJsonList cs)) ∧ cs ≠ [] ∧
        ∀ c ∈ cs, c.WellFormed)
    (hshape : shape ∈ conditionShapes)
    (ha : accepts definitions (.object members) (.record shape) = true) :
    ∃ c : Condition, Json.object members = c.toJson ∧ c.WellFormed := by
  simp only [conditionShapes, List.mem_cons, List.not_mem_nil, or_false] at hshape
  rcases hshape with rfl | rfl | rfl | rfl | rfl | rfl | rfl | rfl <;>
    rw [accepts_exactly_iff hs (by decide)] at ha <;> obtain ⟨hk, ha⟩ := ha <;>
    simp only [List.forall_mem_cons, tag, operator, fieldPath, holds_constant_iff,
      holds_nonEmptyString_iff, holds_enumSet_iff] at ha
  · obtain ⟨ht, ⟨path, hp, hpne⟩, ⟨value, hval, hvne⟩, -⟩ := ha
    exact ⟨.fieldEq path value, congrArg Json.object <| eq_of_known_keys
      ["field_path", "template_id", "value"] hs hk rfl (by decide) (by decide)
      (by simp [Condition.templateMember, ht, hp, hval]), .fieldEq hpne hvne⟩
  · obtain ⟨ht, ⟨path, hp, hpne⟩, ⟨values, hval, hne, hvne⟩, -⟩ := ha
    exact ⟨.fieldIn path values, congrArg Json.object <| eq_of_known_keys
      ["field_path", "template_id", "values"] hs hk rfl (by decide) (by decide)
      (by simp [Condition.templateMember, ht, hp, hval]), .fieldIn hpne hne hvne⟩
  · obtain ⟨ht, ⟨path, hp, hpne⟩, -⟩ := ha
    exact ⟨.fieldExists path, congrArg Json.object <| eq_of_known_keys
      ["field_path", "template_id"] hs hk rfl (by decide) (by decide)
      (by simp [Condition.templateMember, ht, hp]), .fieldExists hpne⟩
  · obtain ⟨ht, ⟨path, hp, hpne⟩, ⟨values, hval, hne, hvne⟩, -⟩ := ha
    exact ⟨.setIntersects path values, congrArg Json.object <| eq_of_known_keys
      ["field_path", "template_id", "values"] hs hk rfl (by decide) (by decide)
      (by simp [Condition.templateMember, ht, hp, hval]), .setIntersects hpne hne hvne⟩
  · exact ⟨.windowMatch, congrArg Json.object <| eq_of_known_keys
      ["template_id"] hs hk rfl (by decide) (by decide)
      (by simp [Condition.templateMember, ha.1]), .windowMatch⟩
  · obtain ⟨ht, hc, -⟩ := ha
    obtain ⟨cs, hget, hne, hcs⟩ := hchildren hc
    exact ⟨.all cs, congrArg Json.object <| eq_of_known_keys
      ["children", "template_id"] hs hk rfl (by decide) (by decide)
      (by simp [Condition.templateMember, ht, hget]), .all hne hcs⟩
  · obtain ⟨ht, ho, hc, -⟩ := ha
    obtain ⟨cs, hget, hne, hcs⟩ := hchildren hc
    exact ⟨.any cs, congrArg Json.object <| eq_of_known_keys
      ["children", "op", "template_id"] hs hk rfl (by decide) (by decide)
      (by simp [Condition.templateMember, ht, ho, hget]), .any hne hcs⟩
  · obtain ⟨ht, ho, hc, -⟩ := ha
    obtain ⟨c, hget, hcw⟩ := hchild hc
    exact ⟨.not c, congrArg Json.object <| eq_of_known_keys
      ["child", "op", "template_id"] hs hk rfl (by decide) (by decide)
      (by simp [Condition.templateMember, ht, ho, hget]), .not hcw⟩

/-- What the schema of conditions accepts is the document form of a well-formed condition. -/
theorem exists_toJson_of_accepts (v : Json) (hv : v.WellFormed)
    (ha : accepts definitions v (definitions .templateExpr) = true) :
    ∃ c : Condition, v = c.toJson ∧ c.WellFormed := by
  obtain ⟨shape, hshape, ha⟩ := (accepts_oneOf_iff conditionShapes_exclude).1 ha
  obtain ⟨members, hm⟩ := exists_object_of_accepts ha
  have hwf : (Json.object members).WellFormed := hm ▸ hv
  rw [hm] at ha ⊢
  refine exists_toJson_of_shape hwf.sorted ?_ ?_ hshape ha
  · rintro ⟨child, hc, hac⟩
    obtain ⟨c, rfl, hcw⟩ := exists_toJson_of_accepts child (hwf.of_get? hc) hac
    exact ⟨c, hc, hcw⟩
  · rintro ⟨list, hl, hal⟩
    obtain ⟨items, rfl, hlen, hitems⟩ := accepts_list_iff.1 hal
    have hforms : ∀ item ∈ items, ∃ c : Condition, item = c.toJson ∧ c.WellFormed :=
      fun item hi => exists_toJson_of_accepts item ((hwf.of_get? hl).of_mem hi) (hitems item hi)
    obtain ⟨cs, rfl, hcs⟩ := exists_map_eq hforms
    refine ⟨cs, ?_, by rintro rfl; simp at hlen, hcs⟩
    rw [Condition.toJsonList_eq_map]
    exact hl
termination_by sizeOf v
decreasing_by
  · rw [hm]
    exact Json.sizeOf_lt_of_get? hc
  · rw [hm]
    exact (Json.sizeOf_lt_of_mem hi).trans (Json.sizeOf_lt_of_get? hl)

theorem accepts_of_holds {c : Condition} (properties : List (String × Schema Name))
    (hc : c.toJson = .object members) (hshape : exactly properties ∈ conditionShapes)
    (hn : properties.Pairwise fun p q => p.1 ≠ q.1)
    (hk : ∀ key ∈ members.keys, key ∈ properties.map Prod.fst)
    (h : ∀ p ∈ properties, Holds definitions members p) :
    accepts definitions c.toJson (definitions .templateExpr) = true := by
  have hwf : (Json.object members).WellFormed := hc ▸ c.wellFormed_toJson
  rw [hc]
  exact (accepts_oneOf_iff conditionShapes_exclude).2
    ⟨_, hshape, (accepts_exactly_iff hwf.sorted hn).2 ⟨hk, h⟩⟩

/-- The schema of conditions accepts the document form of every well-formed condition. -/
theorem accepts_toJson {c : Condition} (h : c.WellFormed) :
    accepts definitions c.toJson (definitions .templateExpr) = true := by
  induction h with
  | @fieldEq path value hp hv =>
    refine accepts_of_holds [tag .fieldEq, fieldPath, ("value", .ref .nonEmptyString)] rfl
      (by simp [conditionShapes]) (by decide) (by simp [tag, fieldPath, Condition.templateMember]) ?_
    simp only [List.forall_mem_cons]
    exact ⟨holds_constant_iff.2 rfl, holds_nonEmptyString_iff.2 ⟨path, rfl, hp⟩,
      holds_nonEmptyString_iff.2 ⟨value, rfl, hv⟩, by simp⟩
  | @fieldIn path values hp hne hv =>
    refine accepts_of_holds [tag .fieldIn, fieldPath, ("values", .ref .enumSet)] rfl
      (by simp [conditionShapes]) (by decide) (by simp [tag, fieldPath, Condition.templateMember]) ?_
    simp only [List.forall_mem_cons]
    exact ⟨holds_constant_iff.2 rfl, holds_nonEmptyString_iff.2 ⟨path, rfl, hp⟩,
      holds_enumSet_iff.2 ⟨values, rfl, hne, hv⟩, by simp⟩
  | @fieldExists path hp =>
    refine accepts_of_holds [tag .fieldExists, fieldPath] rfl
      (by simp [conditionShapes]) (by decide) (by simp [tag, fieldPath, Condition.templateMember]) ?_
    simp only [List.forall_mem_cons]
    exact ⟨holds_constant_iff.2 rfl, holds_nonEmptyString_iff.2 ⟨path, rfl, hp⟩, by simp⟩
  | @setIntersects path values hp hne hv =>
    refine accepts_of_holds [tag .setIntersects, fieldPath, ("values", .ref .enumSet)] rfl
      (by simp [conditionShapes]) (by decide) (by simp [tag, fieldPath, Condition.templateMember]) ?_
    simp only [List.forall_mem_cons]
    exact ⟨holds_constant_iff.2 rfl, holds_nonEmptyString_iff.2 ⟨path, rfl, hp⟩,
      holds_enumSet_iff.2 ⟨values, rfl, hne, hv⟩, by simp⟩
  | windowMatch =>
    refine accepts_of_holds [tag .windowMatch] rfl
      (by simp [conditionShapes]) (by decide) (by simp [tag, Condition.templateMember]) ?_
    simp only [List.forall_mem_cons]
    exact ⟨holds_constant_iff.2 rfl, by simp⟩
  | all hne h ih =>
    refine accepts_of_holds [tag .logicalAnd, children] rfl
      (by simp [conditionShapes]) (by decide) (by simp [tag, children, Condition.templateMember]) ?_
    simp only [List.forall_mem_cons]
    exact ⟨holds_constant_iff.2 rfl, holds_children_of_get? rfl hne ih, by simp⟩
  | any hne h ih =>
    refine accepts_of_holds [tag .logicalOrNot, operator "OR", children] rfl
      (by simp [conditionShapes]) (by decide)
      (by simp [tag, operator, children, Condition.templateMember]) ?_
    simp only [List.forall_mem_cons]
    exact ⟨holds_constant_iff.2 rfl, holds_constant_iff.2 rfl, holds_children_of_get? rfl hne ih,
      by simp⟩
  | not h ih =>
    refine accepts_of_holds [tag .logicalOrNot, operator "NOT", ("child", .ref .templateExpr)] rfl
      (by simp [conditionShapes]) (by decide) (by simp [tag, operator, Condition.templateMember]) ?_
    simp only [List.forall_mem_cons]
    exact ⟨holds_constant_iff.2 rfl, holds_constant_iff.2 rfl, holds_child_of_get? rfl ih, by simp⟩

end RulesetSchema

/-! ### The reader -/

namespace Condition

variable {members : Members}

theorem onlyKeys_eq_ok {allowed : List String} (h : ∀ key ∈ members.keys, key ∈ allowed) :
    onlyKeys members allowed = .ok () := by
  have hn : (members.find? fun m => !allowed.contains m.1) = none :=
    List.find?_eq_none.2 fun m hm => by simpa using h m.1 (List.mem_map_of_mem hm)
  rw [onlyKeys, hn]

theorem filledText?_string {s : String} (hs : s ≠ "") : filledText? (.string s) = some s := by
  simp [filledText?, Json.text?, hs]

theorem textOf_eq_ok {key s : String} (h : Members.get? members key = some (.string s))
    (hs : s ≠ "") : textOf members key = .ok s := by
  rw [textOf, h, Option.bind_some, filledText?_string hs]

theorem textsOf_map {values : List String} (h : ∀ s ∈ values, s ≠ "") :
    textsOf (values.map .string) = .ok values := by
  induction values with
  | nil => rfl
  | cons s rest ih =>
    obtain ⟨hs, hr⟩ := List.forall_mem_cons.1 h
    rw [List.map_cons, textsOf, filledText?_string hs, ih hr]
    rfl

theorem valuesOf_eq_ok {values : List String}
    (h : Members.get? members "values" = some (textList values)) (hne : values ≠ [])
    (hv : ∀ s ∈ values, s ≠ "") : valuesOf members = .ok values := by
  obtain ⟨s, rest, rfl⟩ := List.exists_cons_of_ne_nil hne
  rw [valuesOf, h]
  exact textsOf_map hv

theorem ofItems_map {cs : List Condition} (h : ∀ c ∈ cs, ofJson c.toJson = .ok c) (index : Nat) :
    ofItems index (cs.map toJson) = .ok cs := by
  induction cs generalizing index with
  | nil => rfl
  | cons c rest ih =>
    obtain ⟨hc, hr⟩ := List.forall_mem_cons.1 h
    rw [List.map_cons, ofItems, hc, ih hr]
    rfl

theorem ofItems_toJsonList {cs : List Condition} (h : ∀ c ∈ cs, ofJson c.toJson = .ok c) :
    ofItems 0 (toJsonList cs) = .ok cs := by
  rw [toJsonList_eq_map, ofItems_map h]

/-- The key stands first in the document forms that have it. -/
theorem childrenOf_eq_ok {cs : List Condition} (hne : cs ≠ [])
    (h : ∀ c ∈ cs, ofJson c.toJson = .ok c) :
    childrenOf (("children", .array (toJsonList cs)) :: members) = .ok cs := by
  have he : (toJsonList cs).isEmpty = false := by
    rw [toJsonList_eq_map, List.isEmpty_map, List.isEmpty_eq_false_iff]
    exact hne
  rw [childrenOf, if_pos rfl, he, if_neg Bool.false_ne_true, ofItems_toJsonList h]

theorem childOf_eq_ok {c : Condition} (h : ofJson c.toJson = .ok c) :
    childOf (("child", c.toJson) :: members) = .ok c := by
  rw [childOf, if_pos rfl, h]
  rfl

theorem bind_text?_of_get? {key s : String} (h : Members.get? members key = some (.string s)) :
    (Members.get? members key).bind Json.text? = some s := by
  rw [h]
  rfl

theorem ofText?_text (t : TemplateId) : TemplateId.ofText? t.text = some t := by
  cases t <;> decide

/-- **Reading the document form of a well-formed condition gives the condition back.** -/
theorem ofJson_toJson {c : Condition} (h : c.WellFormed) : ofJson c.toJson = .ok c := by
  induction h with
  | @fieldEq path value hp hv =>
    rw [toJson, ofJson, bind_text?_of_get? rfl]
    simp only [ofText?_text]
    rw [onlyKeys_eq_ok (by simp [templateMember]), textOf_eq_ok rfl hp, textOf_eq_ok rfl hv]
    rfl
  | @fieldIn path values hp hne hv =>
    rw [toJson, ofJson, bind_text?_of_get? rfl]
    simp only [ofText?_text]
    rw [onlyKeys_eq_ok (by simp [templateMember]), textOf_eq_ok rfl hp, valuesOf_eq_ok rfl hne hv]
    rfl
  | @fieldExists path hp =>
    rw [toJson, ofJson, bind_text?_of_get? rfl]
    simp only [ofText?_text]
    rw [onlyKeys_eq_ok (by simp [templateMember]), textOf_eq_ok rfl hp]
    rfl
  | @setIntersects path values hp hne hv =>
    rw [toJson, ofJson, bind_text?_of_get? rfl]
    simp only [ofText?_text]
    rw [onlyKeys_eq_ok (by simp [templateMember]), textOf_eq_ok rfl hp, valuesOf_eq_ok rfl hne hv]
    rfl
  | windowMatch =>
    rw [toJson, ofJson, bind_text?_of_get? rfl]
    simp only [ofText?_text]
    rw [onlyKeys_eq_ok (by simp [templateMember])]
    rfl
  | @all children hne h ih =>
    rw [toJson, ofJson, bind_text?_of_get? rfl]
    simp only [ofText?_text]
    rw [onlyKeys_eq_ok (by simp [templateMember]), childrenOf_eq_ok hne ih]
    rfl
  | @any children hne h ih =>
    rw [toJson, ofJson, bind_text?_of_get? rfl]
    simp only [ofText?_text]
    rw [bind_text?_of_get? rfl]
    simp only
    rw [onlyKeys_eq_ok (by simp [templateMember]), childrenOf_eq_ok hne ih]
    rfl
  | @not child h ih =>
    rw [toJson, ofJson, bind_text?_of_get? rfl]
    simp only [ofText?_text]
    rw [bind_text?_of_get? rfl]
    simp only
    rw [onlyKeys_eq_ok (by simp [templateMember]), childOf_eq_ok ih]
    rfl

end Condition

end ControlPlane
