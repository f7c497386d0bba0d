import ControlPlane.ControlVerdict.Basic
import ControlPlane.Proofs.Anchor.Document
import ControlPlane.Proofs.Ruleset.Document

/-!
# Verdicts in documents

A verdict is read back from its document form, provided that its times are integers of 64 bits, and
the schema together with the typed reading accepts no other form.

## Main definitions

* `ControlVerdict.FitsInt64` : the times are integers of 64 bits.
* `ControlVerdict.MeetsSchema` : what the schema asks of a verdict.

## Main statements

* `ControlVerdict.wellFormed_toJson` : the document form is a well-formed value.
* `ControlVerdict.ofJson_toJson` : what was written is read back.
* `ControlVerdict.eq_of_ofJson_toJson` : nothing else is read back.
* `VerdictSchema.exists_verdict_of_accepts`, `VerdictSchema.accepts_verdict_toJson` : the accepted
  verdicts.
-/

namespace ControlPlane

open Constraint Wire

namespace ControlVerdict

/-- The times of a verdict are integers of 64 bits, as its type has it in documents. -/
structure FitsInt64 (c : ControlVerdict) : Prop where
  evaluatedAt_fits : OfJson.FitsInt64 c.evaluatedAt
  window_fits : c.window.FitsInt64

/-- The fields of a verdict in the order of their keys. -/
def fields (c : ControlVerdict) : List (String × Option Json) :=
  [("action_code", some (.string c.actionCode)),
    ("evaluated_at_ts", some (.integer c.evaluatedAt)),
    ("rule_ref", c.rule.map .string),
    ("ruleset_ref", c.ruleset.map .string),
    ("ruleset_status", c.status.map fun s => .string s.text),
    ("schema_version", some (.string c.schemaVersion)),
    ("subjectRef", some c.subject.toJson),
    ("type", some (.string documentType)),
    ("verdict", some (.string c.verdict.text)),
    ("verdict_id", some (.string c.id)),
    ("window", some c.window.toJson)]

theorem sorted_fields (c : ControlVerdict) : (c.fields.map Prod.fst).Pairwise (· < ·) :=
  (by decide : ["action_code", "evaluated_at_ts", "rule_ref", "ruleset_ref", "ruleset_status",
    "schema_version", "subjectRef", "type", "verdict", "verdict_id", "window"].Pairwise (· < ·))

theorem get?_fields (c : ControlVerdict) (f : String × Option Json) (hf : f ∈ c.fields) :
    Members.get? (Members.present c.fields) f.1 = f.2 :=
  Members.get?_present (c.sorted_fields.imp String.ne_of_lt) hf

/-- The fields of a verdict in the order of declaration. -/
def declaredFields (c : ControlVerdict) : List (String × Option Json) :=
  [("type", some (.string documentType)),
    ("schema_version", some (.string c.schemaVersion)),
    ("verdict_id", some (.string c.id)),
    ("evaluated_at_ts", some (.integer c.evaluatedAt)),
    ("subjectRef", some c.subject.toJson),
    ("window", some c.window.toJson),
    ("action_code", some (.string c.actionCode)),
    ("verdict", some (.string c.verdict.text)),
    ("rule_ref", c.rule.map .string),
    ("ruleset_ref", c.ruleset.map .string),
    ("ruleset_status", c.status.map fun s => .string s.text)]

theorem toJson_eq_declared (c : ControlVerdict) :
    c.toJson = Json.ofMembers (Members.present c.declaredFields) := by
  rw [toJson, encode]
  refine congrArg Json.ofMembers ?_
  obtain ⟨_, _, _, _, _, _, _, _ | _, _ | _, _ | _⟩ := c <;> rfl

theorem toJson_eq_present (c : ControlVerdict) : c.toJson = .object (Members.present c.fields) := by
  rw [toJson_eq_declared, Json.ofMembers]
  refine congrArg Json.object (Members.ofList_present ?_ c.sorted_fields ?_ ?_)
  · exact (by decide : ["type", "schema_version", "verdict_id", "evaluated_at_ts", "subjectRef",
      "window", "action_code", "verdict", "rule_ref", "ruleset_ref", "ruleset_status"].Nodup)
  · simp [declaredFields, fields]
  · simp [declaredFields, fields]

theorem wellFormed_toJson {c : ControlVerdict} (h : c.FitsInt64) : c.toJson.WellFormed := by
  rw [toJson_eq_present]
  refine Json.wellFormed_present c.sorted_fields fun f hf v hv => ?_
  have hstring {α : Type} {o : Option α} {text : α → String}
      (hv : v ∈ o.map fun a => Json.string (text a)) : v.WellFormed := by
    obtain ⟨a, -, rfl⟩ := Option.map_eq_some_iff.1 hv
    trivial
  have hsome {w : Json} (hw : w.WellFormed) (hv : v ∈ some w) : v.WellFormed :=
    Option.some.inj hv ▸ hw
  have htext {text : String} (hv : v ∈ some (Json.string text)) : v.WellFormed :=
    hsome (w := .string text) trivial hv
  simp only [fields, List.mem_cons, List.not_mem_nil, or_false] at hf
  rcases hf with rfl | rfl | rfl | rfl | rfl | rfl | rfl | rfl | rfl | rfl | rfl
  · exact htext hv
  · exact hsome h.evaluatedAt_fits.wellFormed hv
  · exact hstring hv
  · exact hstring hv
  · exact hstring hv
  · exact htext hv
  · exact hsome c.subject.wellFormed_toJson hv
  · exact htext hv
  · exact htext hv
  · exact htext hv
  · exact hsome (Window.wellFormed_toJson h.window_fits) hv

end ControlVerdict

theorem RulesetStatus.ofJson_text (s : RulesetStatus) :
    RulesetStatus.ofJson (.string s.text) = .ok s :=
  OfJson.choice_string (by cases s <;> decide)

namespace ControlVerdict

/-- **Reading the document form of a verdict gives the verdict back.** -/
theorem ofJson_toJson {c : ControlVerdict} (h : c.FitsInt64) : ofJson c.toJson = .ok c := by
  rw [toJson_eq_present]
  apply OfJson.record_object_eq_ok
  · refine Eq.trans (OfJson.takeMembers_cons rfl rfl) ?_
    refine Eq.trans (OfJson.takeMembers_cons rfl
      (map_eq_ok.2 ⟨_, OfJson.int64_integer h.evaluatedAt_fits, rfl⟩)) ?_
    refine Eq.trans (OfJson.takeMembers_present (fun o => { (default : ControlVerdict) with
      actionCode := c.actionCode, evaluatedAt := c.evaluatedAt, rule := o })
      rfl rfl fun _ _ => rfl) ?_
    refine Eq.trans (OfJson.takeMembers_present (fun o => { (default : ControlVerdict) with
      actionCode := c.actionCode, evaluatedAt := c.evaluatedAt, rule := c.rule, ruleset := o })
      rfl rfl fun _ _ => rfl) ?_
    refine Eq.trans (OfJson.takeMembers_present (fun o => { (default : ControlVerdict) with
      actionCode := c.actionCode, evaluatedAt := c.evaluatedAt, rule := c.rule,
      ruleset := c.ruleset, status := o }) rfl rfl fun s _ =>
        map_eq_ok.2 ⟨_, map_eq_ok.2 ⟨_, RulesetStatus.ofJson_text s, rfl⟩, rfl⟩) ?_
    refine Eq.trans (OfJson.takeMembers_cons rfl rfl) ?_
    refine Eq.trans (OfJson.takeMembers_cons rfl
      (map_eq_ok.2 ⟨_, c.subject.read_toJson, rfl⟩)) ?_
    refine Eq.trans (OfJson.takeMembers_cons rfl rfl) ?_
    refine Eq.trans (OfJson.takeMembers_cons rfl
      (map_eq_ok.2 ⟨_, Verdict.ofJson_text c.verdict, rfl⟩)) ?_
    refine Eq.trans (OfJson.takeMembers_cons rfl rfl) ?_
    refine Eq.trans (OfJson.takeMembers_cons rfl
      (map_eq_ok.2 ⟨_, Window.read_toJson h.window_fits, rfl⟩)) ?_
    rfl
  · cases c.rule <;> cases c.ruleset <;> cases c.status <;> rfl

theorem fitsInt64_of_ofJson {c c' : ControlVerdict} (h : ofJson c.toJson = .ok c') :
    c.FitsInt64 := by
  rw [toJson_eq_present] at h
  constructor
  · obtain ⟨a, b, hb⟩ := OfJson.exists_store_eq_ok h
      (c.get?_fields ("evaluated_at_ts", some (.integer c.evaluatedAt)) (by simp [fields])) rfl
    obtain ⟨n, hn, -⟩ := map_eq_ok.1 (hb : (OfJson.int64 _).map _ = .ok b)
    obtain ⟨⟨⟩, hfits⟩ := OfJson.int64_eq_ok hn
    exact hfits
  · obtain ⟨a, b, hb⟩ := OfJson.exists_store_eq_ok h
      (c.get?_fields ("window", some c.window.toJson) (by simp [fields])) rfl
    obtain ⟨w, hw, -⟩ := map_eq_ok.1 (hb : ((Window.read : OfJson Window) _).map _ = .ok b)
    exact Window.fitsInt64_of_read hw

/-- Nothing else is read from the document form of a verdict. -/
theorem eq_of_ofJson_toJson {c c' : ControlVerdict} (h : ofJson c.toJson = .ok c') : c' = c :=
  Except.ok.inj (h.symm.trans (ofJson_toJson (fitsInt64_of_ofJson h)))

end ControlVerdict

/-! ### The schema -/

/-- What the schema asks of a verdict. -/
structure ControlVerdict.MeetsSchema (c : ControlVerdict) : Prop where
  schemaVersion_isSemver : IsSemver c.schemaVersion
  id_ne : c.id ≠ ""
  evaluatedAt_nonneg : 0 ≤ c.evaluatedAt
  subject_wellFormed : c.subject.WellFormed
  startTs_nonneg : 0 ≤ c.window.startTs
  endTs_nonneg : 0 ≤ c.window.endTs
  actionCode_ne : c.actionCode ≠ ""
  rule_ne : c.rule ≠ some ""
  ruleset_ne : c.ruleset ≠ some ""

namespace VerdictSchema

variable {v : Json} {members : Members} {key : String}

theorem holds_filled_iff :
    Holds Empty.elim members (key, filled) ↔
      ∃ s, Members.get? members key = some (.string s) ∧ s ≠ "" :=
  holds_iff fun _ _ => accepts_filled_iff

theorem holds_constant_iff {text : String} :
    Holds Empty.elim members (key, .inline (.constant text)) ↔
      Members.get? members key = some (.string text) := by
  simp only [Holds, Schema.resolve, accepts_constant_iff, exists_eq_right]

theorem holds_version_iff :
    Holds Empty.elim members (key, .inline .version) ↔
      ∃ s, Members.get? members key = some (.string s) ∧ IsSemver s :=
  holds_iff fun _ _ => by simp only [Schema.resolve, accepts_version_iff, isVersion_iff]

theorem accepts_root_iff (hs : Members.Sorted members) :
    accepts Empty.elim (.object members) root = true ↔
      (∀ key ∈ members.keys, key ∈ shape.properties.map Prod.fst) ∧
      Holds Empty.elim members ("type", .inline (.constant "control_verdict_v0")) ∧
      Holds Empty.elim members ("schema_version", .inline .version) ∧
      Holds Empty.elim members ("verdict_id", filled) ∧
      Holds Empty.elim members ("evaluated_at_ts", time) ∧
      Holds Empty.elim members ("subjectRef", .inline (.record subjectShape)) ∧
      Holds Empty.elim members ("window", .inline (.record windowShape)) ∧
      Holds Empty.elim members ("action_code", filled) ∧
      Holds Empty.elim members
        ("verdict", .inline (.enumeration ["ALLOW", "DENY", "UNDETERMINED"])) ∧
      HoldsIfPresent Empty.elim members ("rule_ref", filled) ∧
      HoldsIfPresent Empty.elim members ("ruleset_ref", filled) ∧
      HoldsIfPresent Empty.elim members
        ("ruleset_status", .inline (.enumeration ["APPLIED", "MISSING", "INVALID"])) := by
  refine (accepts_shape_iff hs (by decide) (by decide)).trans ?_
  simp [shape, RecordShape.minProperties, RecordShape.required, RecordShape.properties]

theorem holds_verdict_iff :
    Holds Empty.elim members (key, .inline (.enumeration ["ALLOW", "DENY", "UNDETERMINED"])) ↔
      ∃ d : Verdict, Members.get? members key = some (.string d.text) ∧ True :=
  holds_iff fun v _ => by
    show accepts Empty.elim v (.enumeration (Verdict.all.map Verdict.text)) = true ↔ _
    rw [accepts_variants_iff Verdict.mem_all]
    simp

theorem holdsIfPresent_status_iff :
    HoldsIfPresent Empty.elim members
        (key, .inline (.enumeration ["APPLIED", "MISSING", "INVALID"])) ↔
      ∃ o : Option RulesetStatus,
        Members.get? members key = o.map (fun s => .string s.text) ∧ ∀ s ∈ o, True :=
  holdsIfPresent_iff fun v _ => by
    show accepts Empty.elim v (.enumeration (RulesetStatus.all.map RulesetStatus.text)) = true ↔ _
    rw [accepts_variants_iff fun s => by cases s <;> decide]
    simp

theorem mem_keys_iff {c : ControlVerdict} :
    key ∈ shape.properties.map Prod.fst ↔ key ∈ c.fields.map Prod.fst := by
  simp only [shape, RecordShape.properties, ControlVerdict.fields, List.map_cons, List.map_nil,
    List.mem_cons, List.not_mem_nil]
  tauto

/-- The verdicts that the schema accepts, as far as they are read. -/
theorem exists_verdict_of_accepts (hv : v.WellFormed) (ha : accepts Empty.elim v root = true)
    {c : ControlVerdict} (hc : ControlVerdict.ofJson v = .ok c) :
    ∃ c : ControlVerdict, v = c.toJson ∧ c.MeetsSchema ∧ c.FitsInt64 := by
  obtain ⟨members, rfl⟩ := exists_object_of_accepts ha
  obtain ⟨hk, htype, hversion, hid, htime, ⟨subjectValue, hsubject, hsubjectOk⟩,
    ⟨windowValue, hwindow, hwindowOk⟩, haction, hverdict, hrule, hruleset, hstatus⟩ :=
    (accepts_root_iff hv.sorted).1 ha
  rw [holds_constant_iff] at htype
  obtain ⟨version, hversion, hsemver⟩ := holds_version_iff.1 hversion
  obtain ⟨id, hid, hidne⟩ := holds_filled_iff.1 hid
  obtain ⟨action, haction, hactionne⟩ := holds_filled_iff.1 haction
  obtain ⟨d, hverdict, -⟩ := holds_verdict_iff.1 hverdict
  obtain ⟨rule, hrule, hrulene⟩ := holdsIfPresent_filled_iff.1 hrule
  obtain ⟨ruleset, hruleset, hrulesetne⟩ := holdsIfPresent_filled_iff.1 hruleset
  obtain ⟨status, hstatus, -⟩ := holdsIfPresent_status_iff.1 hstatus
  -- Numbers with a point pass the schema; only the typed reading shows that the times are integers.
  obtain ⟨n, htime, hn, hnfits⟩ := exists_time_of_holds htime fun x hx => by
    obtain ⟨a, b, hb⟩ := OfJson.exists_store_eq_ok hc hx rfl
    obtain ⟨n, hn, -⟩ := map_eq_ok.1 (hb : (OfJson.int64 x).map _ = .ok b)
    exact ⟨n, OfJson.int64_eq_ok hn⟩
  obtain ⟨s, rfl, hs⟩ := exists_subject_of_accepts (hv.of_get? hsubject) hsubjectOk
  obtain ⟨a, b, hb⟩ := OfJson.exists_store_eq_ok hc hwindow rfl
  obtain ⟨w, hw, -⟩ := map_eq_ok.1 (hb : ((Window.read : OfJson Window) windowValue).map _ = .ok b)
  obtain ⟨w, rfl, hstart, hend, hwfits⟩ :=
    exists_window_of_accepts (hv.of_get? hwindow) hwindowOk hw
  let c : ControlVerdict := ⟨version, id, n, s, w, action, d, rule, ruleset, status⟩
  have hmembers : members = Members.present c.fields :=
    Members.eq_present c.sorted_fields hv.sorted (fun key h => mem_keys_iff.1 (hk key h))
      (by simp [c, ControlVerdict.fields, ControlVerdict.documentType, htype, hversion, hid, htime,
        hsubject, hwindow, haction, hverdict, hrule, hruleset, hstatus])
  have hne {o : Option String} (h : ∀ text ∈ o, text ≠ "") : o ≠ some "" := fun ho => h "" ho rfl
  exact ⟨c, by rw [hmembers, c.toJson_eq_present], ⟨hsemver, hidne, hn, hs, hstart, hend, hactionne,
    hne hrulene, hne hrulesetne⟩, hnfits, hwfits⟩

/-- The schema accepts the document form of every verdict that meets it. -/
theorem accepts_verdict_toJson {c : ControlVerdict} (h : c.MeetsSchema) :
    accepts Empty.elim c.toJson root = true := by
  have hget (f : String × Option Json) (hf : f ∈ c.fields) := c.get?_fields f hf
  have hne {o : Option String} (h : o ≠ some "") : ∀ text ∈ o, text ≠ "" :=
    fun text ht he => h (he ▸ ht)
  simp only [ControlVerdict.fields, List.forall_mem_cons] at hget
  obtain ⟨haction, htime, hrule, hruleset, hstatus, hversion, hsubject, htype, hverdict, hid,
    hwindow, -⟩ := hget
  rw [c.toJson_eq_present]
  refine (accepts_root_iff (Members.sorted_present c.sorted_fields)).2 ⟨fun key hk =>
    mem_keys_iff.2 ((Members.keys_present_sublist _).subset hk), ?_⟩
  exact ⟨holds_constant_iff.2 htype, holds_version_iff.2 ⟨_, hversion, h.schemaVersion_isSemver⟩,
    holds_filled_iff.2 ⟨_, hid, h.id_ne⟩, holds_time htime h.evaluatedAt_nonneg,
    ⟨_, hsubject, accepts_subject_toJson h.subject_wellFormed⟩,
    ⟨_, hwindow, accepts_window_toJson h.startTs_nonneg h.endTs_nonneg⟩,
    holds_filled_iff.2 ⟨_, haction, h.actionCode_ne⟩, holds_verdict_iff.2 ⟨_, hverdict, trivial⟩,
    holdsIfPresent_filled_iff.2 ⟨_, hrule, hne h.rule_ne⟩,
    holdsIfPresent_filled_iff.2 ⟨_, hruleset, hne h.ruleset_ne⟩,
    holdsIfPresent_status_iff.2 ⟨_, hstatus, fun _ _ => trivial⟩⟩

end VerdictSchema

end ControlPlane
