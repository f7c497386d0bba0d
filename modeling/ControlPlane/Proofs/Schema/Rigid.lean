import ControlPlane.Proofs.Json.Place
import ControlPlane.Proofs.Schema.Acceptance
import ControlPlane.Ruleset.Document
import Mathlib.Data.List.Pairwise

/-!
# Rigid schemas

A schema is rigid when its closed objects require every key that they know, at every depth, and its
alternatives differ in a constant. The objects in an accepted document then have the keys that their
place prescribes, and no change of the keys of one of them makes it an object of another alternative.

## Main definitions

* `Schema.isRigid`, `Constraint.isRigid`, `RecordShape.isRigid` : whether a schema is rigid.
* `Members.TextsStay` : an object is changed in other members than its texts, or loses some of them.

## Main statements

* `Constraint.mem_keys_iff_of_isRigid` : the objects of a rigid shape all have the same keys.
* `Constraint.accepts_part_of_isRigid` : what is below an accepted value is accepted at its place, and so
  is every part that may be put in its stead.
* `Constraint.not_accepts_replaceAt` : a document with other keys in one of its objects is refused.
* `RulesetSchema.refuses_other_keys` : the schema of rulesets is rigid.
-/

namespace ControlPlane

variable {δ : Type}

/-! ### Rigidity -/

mutual

/-- Whether a schema is rigid. References are checked where they lead. -/
def Schema.isRigid : Schema δ → Bool
  | .ref _ => true
  | .inline c => c.isRigid

/-- Whether every shape in a constraint is rigid, and alternatives differ in a constant. -/
def Constraint.isRigid : Constraint δ → Bool
  | .list _ items => items.isRigid
  | .record shape => shape.isRigid
  | .oneOf alternatives =>
    Constraint.areRigid alternatives && decide (alternatives.Pairwise fun a b => a.differ a.required b)
  | _ => true

/-- Whether a shape requires each of its keys, and the schemas of the keys are rigid. -/
def RecordShape.isRigid : RecordShape δ → Bool
  | .mk _ required properties => RecordShape.requiresAll required properties

/-- Whether properties are among the required keys and have rigid schemas. -/
def RecordShape.requiresAll (required : List String) : List (String × Schema δ) → Bool
  | [] => true
  | (key, s) :: rest => required.contains key && s.isRigid && RecordShape.requiresAll required rest

/-- Whether several shapes are rigid. -/
def Constraint.areRigid : List (RecordShape δ) → Bool
  | [] => true
  | shape :: rest => shape.isRigid && Constraint.areRigid rest

end

theorem RecordShape.requiresAll_iff {required : List String}
    {properties : List (String × Schema δ)} :
    requiresAll required properties = true ↔
      ∀ p ∈ properties, p.1 ∈ required ∧ p.2.isRigid = true := by
  induction properties with
  | nil => simp [requiresAll]
  | cons p rest ih => simp [requiresAll, ih]

theorem Constraint.areRigid_iff {shapes : List (RecordShape δ)} :
    areRigid shapes = true ↔ ∀ shape ∈ shapes, shape.isRigid = true := by
  induction shapes with
  | nil => simp [areRigid]
  | cons shape rest ih => simp [areRigid, ih]

theorem RecordShape.of_property?_of_isRigid {shape : RecordShape δ} (h : shape.isRigid = true)
    {key : String} {s : Schema δ} (hp : shape.property? key = some s) :
    key ∈ shape.required ∧ s.isRigid = true := by
  obtain ⟨least, required, properties⟩ := shape
  rw [isRigid] at h
  exact requiresAll_iff.1 h (key, s) (mem_of_property? hp)

/-- Each text among the members stays where it is, or its key goes. -/
def Members.TextsStay (members edited : Members) : Prop :=
  ∀ key s, Members.get? members key = some (.string s) →
    Members.get? edited key = some (.string s) ∨ Members.get? edited key = none

namespace Constraint

variable {definitions : δ → Constraint δ} {c : Constraint δ} {v part : Json} {step : Json.Step}
  {path : Json.Path} {members edited : Members} {shape : RecordShape δ}
  {alternatives : List (RecordShape δ)}

/-! ### Objects of rigid shapes -/

/-- **The objects of a rigid shape all have the same keys.** -/
theorem mem_keys_iff_of_isRigid (hr : shape.isRigid = true)
    (ha : accepts definitions (.object members) (.record shape) = true) {key : String} :
    key ∈ members.keys ↔ (shape.property? key).isSome := by
  obtain ⟨⟨hknown, -, hrequired⟩, -⟩ := accepts_object_iff.1 ha
  refine ⟨hknown key, fun hproperty => ?_⟩
  obtain ⟨s, hs⟩ := Option.isSome_iff_exists.1 hproperty
  exact hrequired key (shape.of_property?_of_isRigid hr hs).1

instance : Std.Symm (RecordShape.Differ (δ := δ)) :=
  ⟨fun _ _ ⟨key, s, t, hs, ht, hne⟩ => ⟨key, t, s, ht, hs, hne.symm⟩⟩

/-- What tells an alternative from the others is a text, so that a changed object can only be of the
alternative that it was of before. -/
theorem accepts_shape_of_textsStay (hd : alternatives.Pairwise RecordShape.Differ)
    (hshape : shape ∈ alternatives)
    (ha : accepts definitions (.object members) (.record shape) = true)
    (ht : Members.TextsStay members edited)
    (he : accepts definitions (.object edited) (.oneOf alternatives) = true) :
    accepts definitions (.object edited) (.record shape) = true := by
  obtain ⟨other, hother, he⟩ := (accepts_oneOf_iff (hd.imp not_overlap_of_differ)).1 he
  by_cases heq : shape = other
  · exact heq ▸ he
  · obtain ⟨key, s, t, hs, ho, hne⟩ := hd.forall hshape hother heq
    have hbefore := get?_of_constant? ha hs
    have hafter := get?_of_constant? he ho
    rcases ht key s hbefore with hstays | hgoes
    · exact absurd (Json.string.inj (Option.some.inj (hstays.symm.trans hafter))) hne
    · exact absurd (hgoes.symm.trans hafter) (by simp)

/-- An accepted object is of one shape, also after a change that leaves its texts. -/
theorem exists_shape_of_isRigid (hc : c.isRigid = true)
    (ha : accepts definitions (.object members) c = true) :
    ∃ shape : RecordShape δ, shape.isRigid = true ∧
      accepts definitions (.object members) (.record shape) = true ∧
      ∀ edited, Members.TextsStay members edited →
        accepts definitions (.object edited) c = true →
          accepts definitions (.object edited) (.record shape) = true := by
  cases c with
  | record shape => exact ⟨shape, by rwa [isRigid] at hc, ha, fun _ _ he => he⟩
  | oneOf alternatives =>
    rw [isRigid, Bool.and_eq_true, areRigid_iff, decide_eq_true_eq] at hc
    have hd : alternatives.Pairwise RecordShape.Differ := hc.2.imp .of_differ
    obtain ⟨shape, hshape, ha⟩ := (accepts_oneOf_iff (hd.imp not_overlap_of_differ)).1 ha
    exact ⟨shape, hc.1 shape hshape, ha, fun _ ht he => accepts_shape_of_textsStay hd hshape ha ht he⟩
  | _ => simp [accepts, complaints, Json.isWhole] at ha

/-! ### Parts of accepted values -/

theorem isRigid_resolve (hd : ∀ name, (definitions name).isRigid = true) {s : Schema δ}
    (hs : s.isRigid = true) : (s.resolve definitions).isRigid = true := by
  cases s with
  | ref name => exact hd name
  | inline c => rwa [Schema.isRigid] at hs

theorem textsStay_insert {key : String}
    (hkey : ∀ s, Members.get? members key ≠ some (.string s)) (w : Json) :
    Members.TextsStay members (Members.insert key w members) := by
  intro other s hs
  have hne : key ≠ other := fun heq => hkey s (heq ▸ hs)
  rw [Members.get?_insert, if_neg hne]
  exact .inl hs

theorem textsStay_erase (key : String) : Members.TextsStay members (Members.erase key members) := by
  intro other s hs
  rw [Members.get?_erase]
  split
  · exact .inr rfl
  · exact .inl hs

/-- **What is below an accepted value is accepted at its place, and so is everything that may be put
in its stead.** A text is excepted, because it may tell an alternative from the others. -/
theorem accepts_part_of_isRigid (hd : ∀ name, (definitions name).isRigid = true)
    (hc : c.isRigid = true) (ha : accepts definitions v c = true) (hstep : v.step? step = some part)
    (hpart : ∀ s, part ≠ .string s) :
    ∃ below : Constraint δ, below.isRigid = true ∧ accepts definitions part below = true ∧
      ∀ w, accepts definitions (v.replaceStep step w) c = true →
        accepts definitions w below = true := by
  obtain ⟨members, key, rfl, rfl, hget⟩ | ⟨items, position, rfl, rfl, hget⟩ :=
    Json.step?_eq_some_iff.1 hstep
  · obtain ⟨shape, hshape, hrecord, hedited⟩ := exists_shape_of_isRigid hc ha
    obtain ⟨⟨hknown, -, -⟩, hparts⟩ := accepts_object_iff.1 hrecord
    obtain ⟨s, hs⟩ := Option.isSome_iff_exists.1 (hknown key (Members.mem_keys_iff.2 ⟨part, hget⟩))
    refine ⟨s.resolve definitions, isRigid_resolve hd (shape.of_property?_of_isRigid hshape hs).2,
      hparts _ (Members.mem_of_get? hget) s hs, fun w hw => ?_⟩
    have hnotext : ∀ s, Members.get? members key ≠ some (.string s) :=
      fun s htext => hpart s (Option.some.inj (hget.symm.trans htext))
    have hw := hedited _ (textsStay_insert hnotext w) hw
    have hput : Members.get? (Members.insert key w members) key = some w := by
      rw [Members.get?_insert, if_pos rfl]
    exact (accepts_object_iff.1 hw).2 _ (Members.mem_of_get? hput) s hs
  · cases c with
    | list least s =>
      rw [isRigid] at hc
      obtain ⟨_, ⟨⟩, -, hitems⟩ := accepts_list_iff.1 ha
      refine ⟨s.resolve definitions, isRigid_resolve hd hc,
        hitems part (List.mem_of_getElem? hget), fun w hw => ?_⟩
      obtain ⟨_, ⟨⟩, -, hitems⟩ := accepts_list_iff.1 hw
      exact hitems w (List.mem_set (List.getElem?_eq_some_iff.1 hget).1 w)
    | _ => simp [accepts, complaints, Json.isWhole] at ha

/-! ### Changed keys -/

/-- **A document with other keys in one of its objects is refused.** The object may stand at any depth,
and may lose texts but not have them changed. -/
theorem not_accepts_replaceAt (hd : ∀ name, (definitions name).isRigid = true)
    (hc : c.isRigid = true) (ha : accepts definitions v c = true)
    (hp : v.at? path = some (.object members)) (ht : Members.TextsStay members edited)
    {key : String} (hkey : ¬ (key ∈ edited.keys ↔ key ∈ members.keys)) :
    accepts definitions (v.replaceAt path (.object edited)) c = false := by
  induction path generalizing v c with
  | nil =>
    obtain rfl : v = .object members := Option.some.inj hp
    obtain ⟨shape, hshape, hrecord, hedited⟩ := exists_shape_of_isRigid hc ha
    refine Bool.eq_false_iff.2 fun he => hkey ?_
    rw [mem_keys_iff_of_isRigid hshape (hedited _ ht he), mem_keys_iff_of_isRigid hshape hrecord]
  | cons step rest ih =>
    obtain ⟨part, hstep, hrest⟩ := Option.bind_eq_some_iff.1 hp
    have hpart : ∀ s, part ≠ .string s := by
      rintro s rfl
      cases rest <;> simp [Json.at?, Json.step?] at hrest
    obtain ⟨below, hbelow, hpartaccepts, hput⟩ := accepts_part_of_isRigid hd hc ha hstep hpart
    have hrefused := ih hbelow hpartaccepts hrest
    simp only [Json.replaceAt, hstep]
    exact Bool.eq_false_iff.2 fun he => Bool.eq_false_iff.1 hrefused (hput _ he)

end Constraint

/-! ### Rulesets -/

/-- Validation refuses a document. -/
def Contract.Refuses (c : Contract) (v : Json) : Prop := ∃ refusal, c.check v = .error refusal

theorem Contract.refuses_ruleset_iff {v : Json} :
    Contract.ruleset.Refuses v ↔
      Constraint.accepts RulesetSchema.definitions v RulesetSchema.root = false := by
  have hok : Contract.ruleset.check v = .ok () ↔
      Constraint.accepts RulesetSchema.definitions v RulesetSchema.root = true := check_eq_ok_iff
  rw [← Bool.not_eq_true, ← hok, Refuses]
  cases Contract.ruleset.check v <;> simp

namespace RulesetSchema

open Constraint

theorem isRigid_definitions (name : Name) : (definitions name).isRigid = true := by
  cases name <;> decide

theorem isRigid_root : root.isRigid = true := by decide

/-- **No key can be added to an object of an accepted ruleset, and none can be taken away.** The object
may be the document, a rule, or a condition at any depth. -/
theorem refuses_other_keys {v : Json} (h : Contract.ruleset.check v = .ok ()) {path : Json.Path}
    {members : Members} (hp : v.at? path = some (.object members)) (key : String) :
    (key ∉ members.keys → ∀ value,
      Contract.ruleset.Refuses (v.replaceAt path (.object (members.insert key value)))) ∧
    (key ∈ members.keys →
      Contract.ruleset.Refuses (v.replaceAt path (.object (members.erase key)))) := by
  have ha : accepts definitions v root = true := Contract.check_eq_ok_iff.1 h
  have hrefuses {edited : Members} (ht : members.TextsStay edited)
      (hkeys : ¬ (key ∈ edited.keys ↔ key ∈ members.keys)) :
      Contract.ruleset.Refuses (v.replaceAt path (.object edited)) :=
    Contract.refuses_ruleset_iff.2
      (not_accepts_replaceAt isRigid_definitions isRigid_root ha hp ht hkeys)
  constructor
  · intro hkey value
    refine hrefuses (textsStay_insert (fun s hs => ?_) value) ?_
    · exact hkey (Members.mem_keys_iff.2 ⟨_, hs⟩)
    · simp [Members.mem_keys_insert_iff, hkey]
  · intro hkey
    refine hrefuses (textsStay_erase key) ?_
    simp [Members.mem_keys_erase_iff, hkey]

/-- A ruleset with a negation below a conjunction. -/
def negatingRuleset : Ruleset where
  schemaVersion := "0.1.0"
  id := "entry"
  actionCode := "AO-ENTER"
  strategy := .firstMatch
  inputsUsed := ["problem_state.confidence"]
  allowedTemplates := [.logicalAnd]
  rules := [⟨"unpermitted", "1.0.0", .logicalAnd,
    .all [.fieldExists "problem_state.confidence", .not .windowMatch], .deny⟩]

/-- Where the negation stands. -/
def negationPlace : Json.Path := [.key "rules", .index 0, .key "expr", .key "children", .index 1]

/-- The members of the negation. -/
def negationMembers : Members := [("child", Condition.windowMatch.toJson), ("op", .string "NOT"),
  Condition.templateMember .logicalOrNot]

/-- The negation may not have `children` besides its child, as a disjunction would, nor lack the `op`
that tells it from one. -/
theorem refuses_other_keys_negatingRuleset :
    Contract.ruleset.check negatingRuleset.toJson = .ok () ∧
      negatingRuleset.toJson.at? negationPlace = some (.object negationMembers) ∧
      "children" ∉ negationMembers.keys ∧ "op" ∈ negationMembers.keys ∧
      Contract.ruleset.Refuses (negatingRuleset.toJson.replaceAt negationPlace
        (.object (negationMembers.insert "children" (.array [Condition.windowMatch.toJson])))) ∧
      Contract.ruleset.Refuses (negatingRuleset.toJson.replaceAt negationPlace
        (.object (negationMembers.erase "op"))) := by
  have hcheck : Contract.ruleset.check negatingRuleset.toJson = .ok () :=
    Contract.check_eq_ok_iff.2 (by decide)
  have hplace : negatingRuleset.toJson.at? negationPlace = some (.object negationMembers) := rfl
  have hchildren : "children" ∉ negationMembers.keys := by decide
  have hop : "op" ∈ negationMembers.keys := by decide
  exact ⟨hcheck, hplace, hchildren, hop,
    (refuses_other_keys hcheck hplace "children").1 hchildren _,
    (refuses_other_keys hcheck hplace "op").2 hop⟩

end RulesetSchema

end ControlPlane
