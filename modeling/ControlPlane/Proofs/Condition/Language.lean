import ControlPlane.Proofs.Admission

/-!
# One language of conditions

Conditions are recognised twice, by the schema and by the reader, and neither is written in terms of
the other. Both recognise the same values, which are the document forms of well-formed conditions,
and of the eight shapes of the schema each of these values has one only. What passes the schema of
rulesets is therefore always read.

## Main statements

* `Condition.ofJson_eq_ok_iff_toJson` : the reader reads the document forms of well-formed
  conditions, and nothing else.
* `RulesetSchema.existsUnique_shape` : an accepted value has one of the eight shapes.
* `RulesetSchema.agrees_with_readers` : the schema and the reader recognise the same values.
-/

namespace ControlPlane

/-- A text names the shape that is found by it. -/
theorem TemplateId.eq_text_of_ofText? {s : String} {t : TemplateId} (h : ofText? s = some t) :
    s = t.text := by
  rw [ofText?] at h
  have ht := List.find?_some h
  exact (beq_iff_eq.1 ht).symm

namespace Condition

variable {members : Members} {key s : String}

/-! ### What the parts of the reader tell -/

theorem get?_of_bind_text? (h : (Members.get? members key).bind Json.text? = some s) :
    Members.get? members key = some (.string s) := by
  obtain ⟨v, hv, ht⟩ := Option.bind_eq_some_iff.1 h
  obtain rfl := Json.text?_eq_some_iff.1 ht
  exact hv

theorem mem_of_onlyKeys {allowed : List String} (h : onlyKeys members allowed = .ok ()) :
    ∀ key ∈ members.keys, key ∈ allowed := by
  rw [onlyKeys] at h
  split at h
  · exact absurd h (by simp [refuse])
  · next hnone =>
    intro key hkey
    obtain ⟨m, hm, rfl⟩ := List.mem_map.1 hkey
    simpa using List.find?_eq_none.1 hnone m hm

theorem eq_string_of_filledText? {v : Json} (h : filledText? v = some s) :
    v = .string s ∧ s ≠ "" := by
  obtain ⟨ht, hs⟩ := Option.filter_eq_some_iff.1 h
  exact ⟨Json.text?_eq_some_iff.1 ht, by simpa using hs⟩

theorem get?_of_textOf (h : textOf members key = .ok s) :
    Members.get? members key = some (.string s) ∧ s ≠ "" := by
  rw [textOf] at h
  split at h
  · next t ht =>
    obtain rfl : t = s := Except.ok.inj h
    obtain ⟨v, hv, hfilled⟩ := Option.bind_eq_some_iff.1 ht
    obtain ⟨rfl, hne⟩ := eq_string_of_filledText? hfilled
    exact ⟨hv, hne⟩
  · exact absurd h (by simp [refuse])

theorem eq_map_of_textsOf {items : List Json} {values : List String}
    (h : textsOf items = .ok values) : items = values.map .string ∧ ∀ s ∈ values, s ≠ "" := by
  induction items generalizing values with
  | nil =>
    obtain rfl : [] = values := Except.ok.inj h
    exact ⟨rfl, by simp⟩
  | cons v rest ih =>
    rw [textsOf] at h
    split at h
    · next s hs =>
      obtain ⟨texts, htexts, h⟩ := bind_eq_ok.1 h
      obtain rfl : s :: texts = values := Except.ok.inj h
      obtain ⟨rfl, hne⟩ := eq_string_of_filledText? hs
      obtain ⟨rfl, hrest⟩ := ih htexts
      exact ⟨rfl, List.forall_mem_cons.2 ⟨hne, hrest⟩⟩
    · exact absurd h (by simp [refuse])

theorem get?_of_valuesOf {values : List String} (h : valuesOf members = .ok values) :
    Members.get? members "values" = some (textList values) ∧ values ≠ [] ∧
      ∀ s ∈ values, s ≠ "" := by
  rw [valuesOf] at h
  split at h
  · next v rest hitems =>
    obtain ⟨hmap, hne⟩ := eq_map_of_textsOf h
    obtain ⟨list, hget, hlist⟩ := Option.bind_eq_some_iff.1 hitems
    cases list with
    | array items =>
      obtain rfl : items = v :: rest := Option.some.inj hlist
      rw [hmap] at hget
      refine ⟨hget, ?_, hne⟩
      rintro rfl
      exact absurd hmap (by simp)
    | _ => exact absurd hlist (by simp [Json.items?])
  · exact absurd h (by simp [refuse])

theorem get?_of_childOf {c : Condition} (h : childOf members = .ok c) :
    ∃ v, Members.get? members "child" = some v ∧ ofJson v = .ok c := by
  induction members with
  | nil => exact absurd h (by simp [childOf, refuse])
  | cons m rest ih =>
    obtain ⟨k, v⟩ := m
    rw [childOf] at h
    rw [Members.get?_cons]
    by_cases hk : k = "child"
    · rw [if_pos hk] at h ⊢
      exact ⟨v, rfl, mapError_eq_ok.1 h⟩
    · rw [if_neg hk] at h ⊢
      exact ih h

theorem get?_of_childrenOf {cs : List Condition} (h : childrenOf members = .ok cs) :
    ∃ items, Members.get? members "children" = some (.array items) ∧ items ≠ [] ∧
      ofItems 0 items = .ok cs := by
  induction members with
  | nil => exact absurd h (by simp [childrenOf, refuse])
  | cons m rest ih =>
    obtain ⟨k, v⟩ := m
    rw [Members.get?_cons]
    by_cases hk : k = "children"
    · rw [if_pos hk]
      cases v with
      | array items =>
        rw [childrenOf, if_pos hk] at h
        split at h
        · exact absurd h (by simp [refuse])
        · next hne => exact ⟨items, rfl, by simpa using hne, h⟩
      | _ => simp [childrenOf, hk, refuse] at h
    · rw [if_neg hk]
      refine ih ?_
      cases v <;> simpa [childrenOf, hk] using h

/-- Conditions are read item by item. -/
theorem forall₂_of_ofItems {index : Nat} {items : List Json} {cs : List Condition}
    (h : ofItems index items = .ok cs) : List.Forall₂ (fun v c => ofJson v = .ok c) items cs := by
  induction items generalizing index cs with
  | nil =>
    obtain rfl : [] = cs := Except.ok.inj h
    exact .nil
  | cons v rest ih =>
    rw [ofItems] at h
    obtain ⟨c, hc, h⟩ := bind_eq_ok.1 h
    obtain ⟨tail, htail, h⟩ := bind_eq_ok.1 h
    obtain rfl : c :: tail = cs := Except.ok.inj h
    exact .cons (mapError_eq_ok.1 hc) (ih htail)

/-! ### The reader is exact -/

/-- Members that the reader lets pass are those of a document form when they give what it gives. -/
theorem object_eq_toJson {c : Condition} {form : Members} {allowed : List String}
    (hs : Members.Sorted members) (hallowed : onlyKeys members allowed = .ok ())
    (hform : c.toJson = .object form) (hkeys : ∀ key ∈ allowed, key ∈ form.keys)
    (h : ∀ m ∈ form, Members.get? members m.1 = some m.2) : Json.object members = c.toJson := by
  have hwf : (Json.object form).WellFormed := hform ▸ c.wellFormed_toJson
  have heq : members = form := Members.eq_of_forall_mem hs hwf.sorted
    (fun key hkey => hkeys key (mem_of_onlyKeys hallowed key hkey)) h
  rw [hform, heq]

/-- Values read one by one are the document forms of the conditions read, if each of them is. -/
theorem eq_toJsonList_of_forall₂ {items : List Json} {cs : List Condition}
    (h : List.Forall₂ (fun v c => ofJson v = .ok c) items cs)
    (hitems : ∀ v ∈ items, ∀ c, ofJson v = .ok c → v = c.toJson ∧ c.WellFormed) :
    items = toJsonList cs ∧ ∀ c ∈ cs, c.WellFormed := by
  induction h with
  | nil => exact ⟨rfl, by simp⟩
  | @cons v c items cs hc _ ih =>
    obtain ⟨hv, hrest⟩ := List.forall_mem_cons.1 hitems
    obtain ⟨rfl, hcw⟩ := hv c hc
    obtain ⟨rfl, hcs⟩ := ih hrest
    exact ⟨rfl, List.forall_mem_cons.2 ⟨hcw, hcs⟩⟩

theorem get?_toJsonList_of_childrenOf {cs : List Condition} (h : childrenOf members = .ok cs)
    (hitems : ∀ items, Members.get? members "children" = some (.array items) → ∀ v ∈ items,
      ∀ c, ofJson v = .ok c → v = c.toJson ∧ c.WellFormed) :
    Members.get? members "children" = some (.array (toJsonList cs)) ∧ cs ≠ [] ∧
      ∀ c ∈ cs, c.WellFormed := by
  obtain ⟨items, hget, hne, hread⟩ := get?_of_childrenOf h
  obtain ⟨rfl, hcs⟩ := eq_toJsonList_of_forall₂ (forall₂_of_ofItems hread) (hitems items hget)
  refine ⟨hget, ?_, hcs⟩
  rintro rfl
  exact hne rfl

/-- An object that is read is the document form of what is read, provided that the values below it
are. -/
theorem eq_toJson_of_ofJson_object {c : Condition} (hs : Members.Sorted members)
    (hchild : ∀ v, Members.get? members "child" = some v →
      ∀ c, ofJson v = .ok c → v = c.toJson ∧ c.WellFormed)
    (hchildren : ∀ items, Members.get? members "children" = some (.array items) → ∀ v ∈ items,
      ∀ c, ofJson v = .ok c → v = c.toJson ∧ c.WellFormed)
    (h : ofJson (.object members) = .ok c) : Json.object members = c.toJson ∧ c.WellFormed := by
  rw [ofJson] at h
  cases hname : (Members.get? members "template_id").bind Json.text? with
  | none =>
    rw [hname] at h
    exact absurd h (by simp [refuse])
  | some name =>
    rw [hname] at h
    have htag := get?_of_bind_text? hname
    cases ht : TemplateId.ofText? name with
    | none =>
      simp only [ht] at h
      exact absurd h (by simp [refuse])
    | some t =>
      simp only [ht] at h
      obtain rfl := TemplateId.eq_text_of_ofText? ht
      cases t with
      | fieldEq =>
        obtain ⟨hkeys, h⟩ := bind_unit_eq_ok.1 h
        obtain ⟨path, hpath, h⟩ := bind_eq_ok.1 h
        obtain ⟨value, hvalue, h⟩ := bind_eq_ok.1 h
        obtain rfl := Except.ok.inj h
        obtain ⟨hp, hpne⟩ := get?_of_textOf hpath
        obtain ⟨hv, hvne⟩ := get?_of_textOf hvalue
        exact ⟨object_eq_toJson hs hkeys rfl (by simp [templateMember])
          (by simp [templateMember, htag, hp, hv]), .fieldEq hpne hvne⟩
      | fieldIn =>
        obtain ⟨hkeys, h⟩ := bind_unit_eq_ok.1 h
        obtain ⟨path, hpath, h⟩ := bind_eq_ok.1 h
        obtain ⟨values, hvalues, h⟩ := bind_eq_ok.1 h
        obtain rfl := Except.ok.inj h
        obtain ⟨hp, hpne⟩ := get?_of_textOf hpath
        obtain ⟨hv, hne, hvne⟩ := get?_of_valuesOf hvalues
        exact ⟨object_eq_toJson hs hkeys rfl (by simp [templateMember])
          (by simp [templateMember, htag, hp, hv]), .fieldIn hpne hne hvne⟩
      | fieldExists =>
        obtain ⟨hkeys, h⟩ := bind_unit_eq_ok.1 h
        obtain ⟨path, hpath, h⟩ := bind_eq_ok.1 h
        obtain rfl := Except.ok.inj h
        obtain ⟨hp, hpne⟩ := get?_of_textOf hpath
        exact ⟨object_eq_toJson hs hkeys rfl (by simp [templateMember])
          (by simp [templateMember, htag, hp]), .fieldExists hpne⟩
      | setIntersects =>
        obtain ⟨hkeys, h⟩ := bind_unit_eq_ok.1 h
        obtain ⟨path, hpath, h⟩ := bind_eq_ok.1 h
        obtain ⟨values, hvalues, h⟩ := bind_eq_ok.1 h
        obtain rfl := Except.ok.inj h
        obtain ⟨hp, hpne⟩ := get?_of_textOf hpath
        obtain ⟨hv, hne, hvne⟩ := get?_of_valuesOf hvalues
        exact ⟨object_eq_toJson hs hkeys rfl (by simp [templateMember])
          (by simp [templateMember, htag, hp, hv]), .setIntersects hpne hne hvne⟩
      | windowMatch =>
        obtain ⟨hkeys, h⟩ := bind_unit_eq_ok.1 h
        obtain rfl := Except.ok.inj h
        exact ⟨object_eq_toJson hs hkeys rfl (by simp [templateMember])
          (by simp [templateMember, htag]), .windowMatch⟩
      | logicalAnd =>
        obtain ⟨hkeys, h⟩ := bind_unit_eq_ok.1 h
        obtain ⟨cs, hcs, h⟩ := bind_eq_ok.1 h
        obtain rfl := Except.ok.inj h
        obtain ⟨hget, hne, hwf⟩ := get?_toJsonList_of_childrenOf hcs hchildren
        exact ⟨object_eq_toJson hs hkeys rfl (by simp [templateMember])
          (by simp [templateMember, htag, hget]), .all hne hwf⟩
      | logicalOrNot =>
        -- Disjunction and negation share this id; the operator tells them apart.
        simp only at h
        split at h
        · next hop =>
          have hop := get?_of_bind_text? hop
          obtain ⟨hkeys, h⟩ := bind_unit_eq_ok.1 h
          obtain ⟨cs, hcs, h⟩ := bind_eq_ok.1 h
          obtain rfl := Except.ok.inj h
          obtain ⟨hget, hne, hwf⟩ := get?_toJsonList_of_childrenOf hcs hchildren
          exact ⟨object_eq_toJson hs hkeys rfl (by simp [templateMember])
            (by simp [templateMember, htag, hop, hget]), .any hne hwf⟩
        · next hop =>
          have hop := get?_of_bind_text? hop
          obtain ⟨hkeys, h⟩ := bind_unit_eq_ok.1 h
          obtain ⟨child, hread, h⟩ := bind_eq_ok.1 h
          obtain rfl := Except.ok.inj h
          obtain ⟨v, hget, hv⟩ := get?_of_childOf hread
          obtain ⟨rfl, hwf⟩ := hchild v hget child hv
          exact ⟨object_eq_toJson hs hkeys rfl (by simp [templateMember])
            (by simp [templateMember, htag, hop, hget]), .not hwf⟩
        · exact absurd h (by simp [refuse])

/-- What is read is the document form of what it is read as. -/
theorem eq_toJson_of_ofJson : (v : Json) → v.WellFormed → {c : Condition} → ofJson v = .ok c →
    v = c.toJson ∧ c.WellFormed
  | .object members, hv, c, h => by
    refine eq_toJson_of_ofJson_object hv.sorted ?_ ?_ h
    · intro child hc c hread
      exact eq_toJson_of_ofJson child (hv.of_get? hc) hread
    · intro items hl item hi c hread
      exact eq_toJson_of_ofJson item ((hv.of_get? hl).of_mem hi) hread
  | .null, _, c, h | .bool _, _, c, h | .integer _, _, c, h | .float _, _, c, h
  | .string _, _, c, h | .array _, _, c, h => absurd h (by simp [ofJson, refuse])
termination_by v => sizeOf v
decreasing_by
  · exact Json.sizeOf_lt_of_get? hc
  · exact (Json.sizeOf_lt_of_mem hi).trans (Json.sizeOf_lt_of_get? hl)

/-- **The reader of conditions reads exactly the document forms of well-formed conditions**, each as
the condition that was written. -/
theorem ofJson_eq_ok_iff_toJson {v : Json} (hv : v.WellFormed) {c : Condition} :
    ofJson v = .ok c ↔ v = c.toJson ∧ c.WellFormed := by
  constructor
  · exact eq_toJson_of_ofJson v hv
  · rintro ⟨rfl, hc⟩
    exact ofJson_toJson hc

/-- A condition in which every shape occurs, with a disjunction and a negation side by side. -/
def everyShape : Condition :=
  .all [.fieldEq "problem_state.confidence" "HIGH", .fieldIn "problem_state.risk" ["LOW", "MEDIUM"],
    .any [.fieldExists "problem_state.problem_type", .windowMatch],
    .not (.setIntersects "permission_set.zones[]" ["north"])]

theorem everyShape_wellFormed : everyShape.WellFormed := by
  refine .all (by decide) ?_
  simp only [List.forall_mem_cons]
  refine ⟨.fieldEq (by decide) (by decide), .fieldIn (by decide) (by decide) (by decide),
    .any (by decide) ?_, .not (.setIntersects (by decide) (by decide) (by decide)), by simp⟩
  simp only [List.forall_mem_cons]
  exact ⟨.fieldExists (by decide), .windowMatch, by simp⟩

theorem ofJson_eq_ok_iff_toJson_everyShape :
    everyShape.toJson.WellFormed ∧ ofJson everyShape.toJson = .ok everyShape ∧
      everyShape.WellFormed := by
  have hdocument := everyShape.wellFormed_toJson
  have hread := (ofJson_eq_ok_iff_toJson hdocument).2 ⟨rfl, everyShape_wellFormed⟩
  exact ⟨hdocument, hread, ((ofJson_eq_ok_iff_toJson hdocument).1 hread).2⟩

end Condition

/-! ### The two recognisers -/

namespace RulesetSchema

open Constraint

variable {v : Json}

/-- The schema of conditions accepts what the reader reads. -/
theorem accepts_templateExpr_iff_ofJson (hv : v.WellFormed) :
    accepts definitions v (definitions .templateExpr) = true ↔ ∃ c, Condition.ofJson v = .ok c := by
  rw [accepts_templateExpr_iff hv]
  constructor
  · rintro ⟨c, rfl, hc⟩
    exact ⟨c, Condition.ofJson_toJson hc⟩
  · rintro ⟨c, hc⟩
    exact ⟨c, Condition.eq_toJson_of_ofJson v hv hc⟩

/-- An accepted value has one of the eight shapes, and only one. -/
theorem existsUnique_shape (ha : accepts definitions v (definitions .templateExpr) = true) :
    ∃! i : Fin 8, accepts definitions v (.record (conditionShapes.get i)) = true := by
  obtain ⟨shape, hshape, haccepts⟩ := (accepts_oneOf_iff conditionShapes_exclude).1 ha
  obtain ⟨i, rfl⟩ := List.mem_iff_get.1 hshape
  refine ⟨i, haccepts, fun j hj => ?_⟩
  have hexclude := List.pairwise_iff_getElem.1 conditionShapes_exclude
  rcases Nat.lt_trichotomy j.val i.val with hlt | heq | hgt
  · exact absurd ⟨v, hj, haccepts⟩ (hexclude j i j.isLt i.isLt hlt)
  · exact Fin.ext heq
  · exact absurd ⟨v, haccepts, hj⟩ (hexclude i j i.isLt j.isLt hgt)

/-- A document that passes the schema of rulesets is read. -/
theorem exists_ofJson_of_check (hv : v.WellFormed) (h : Contract.ruleset.check v = .ok ()) :
    ∃ r, Ruleset.ofJson v = .ok r := by
  obtain ⟨r, rfl, hr⟩ := (accepts_root_iff hv).1 (Contract.check_eq_ok_iff.1 h)
  exact ⟨r, Ruleset.ofJson_toJson hr⟩

/-- The first gate never refuses for a mismatch of types. -/
theorem structureOf_ne_mismatch (hv : v.WellFormed) (e : Wire.Mismatch) :
    Admission.structureOf v ≠ .error (.structural (.mismatch e)) := by
  intro h
  rcases bind_eq_error.1 h with hschema | ⟨⟨⟩, hschema, hread⟩
  · obtain ⟨refusal, -, hrefusal⟩ := mapError_eq_error.1 hschema
    exact absurd hrefusal (by simp)
  · obtain ⟨r, hr⟩ := exists_ofJson_of_check hv (mapError_eq_ok.1 hschema)
    obtain ⟨mismatch, hmismatch, -⟩ := mapError_eq_error.1 hread
    exact absurd (hr.symm.trans hmismatch) (by simp)

/-- **The schema and the reader recognise one language of conditions.** The schema accepts exactly
the values that are read, each of them in one of its eight shapes only. A document that passes the
schema of rulesets is therefore read, and admission never refuses a document because its types do
not fit. -/
theorem agrees_with_readers (hv : v.WellFormed) :
    (accepts definitions v (definitions .templateExpr) = true ↔
      ∃ c, Condition.ofJson v = .ok c) ∧
    (∀ c, Condition.ofJson v = .ok c →
      ∃! i : Fin 8, accepts definitions v (.record (conditionShapes.get i)) = true) ∧
    (Contract.ruleset.check v = .ok () → ∃ r, Ruleset.ofJson v = .ok r) ∧
    ∀ e, Admission.structureOf v ≠ .error (.structural (.mismatch e)) := by
  refine ⟨accepts_templateExpr_iff_ofJson hv, ?_, exists_ofJson_of_check hv,
    structureOf_ne_mismatch hv⟩
  intro c hc
  exact existsUnique_shape ((accepts_templateExpr_iff_ofJson hv).2 ⟨c, hc⟩)

/-- A condition in which every kind of nesting occurs. -/
def nestedCondition : Condition :=
  .all [.not (.any [.fieldEq "problem_state.risk" "HIGH", .windowMatch]),
    .setIntersects "permission_set.zones" ["north"]]

theorem nestedCondition_wellFormed : nestedCondition.WellFormed := by
  refine .all (by decide) (List.forall_mem_cons.2 ⟨.not (.any (by decide) ?_), ?_⟩)
  · exact List.forall_mem_cons.2 ⟨.fieldEq (by decide) (by decide),
      by simp [Condition.WellFormed.windowMatch]⟩
  · simpa using .setIntersects (by decide) (by decide) (by decide)

theorem agrees_with_readers_nestedCondition :
    nestedCondition.toJson.WellFormed ∧
      accepts definitions nestedCondition.toJson (definitions .templateExpr) = true ∧
      (∃! i : Fin 8, accepts definitions nestedCondition.toJson
        (.record (conditionShapes.get i)) = true) ∧
      Admission.entryRuleset.toJson.WellFormed ∧
      ∃ r, Ruleset.ofJson Admission.entryRuleset.toJson = .ok r := by
  have hread := Condition.ofJson_toJson nestedCondition_wellFormed
  have hcondition := agrees_with_readers nestedCondition.wellFormed_toJson
  have hruleset := agrees_with_readers Admission.entryRuleset.wellFormed_toJson
  have hcheck : Contract.ruleset.check Admission.entryRuleset.toJson = .ok () :=
    Contract.check_eq_ok_iff.2 ((accepts_root_iff Admission.entryRuleset.wellFormed_toJson).2
      ⟨_, rfl, Admission.entryRuleset_wellFormed⟩)
  exact ⟨nestedCondition.wellFormed_toJson, hcondition.1.2 ⟨_, hread⟩, hcondition.2.1 _ hread,
    Admission.entryRuleset.wellFormed_toJson, hruleset.2.2.1 hcheck⟩

end RulesetSchema

end ControlPlane
