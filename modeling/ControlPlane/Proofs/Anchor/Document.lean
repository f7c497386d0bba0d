import ControlPlane.Anchor.Subject
import ControlPlane.Anchor.Window
import ControlPlane.Proofs.Schema.Acceptance
import ControlPlane.Proofs.Wire.Reading

/-!
# Anchors in documents

Subjects and windows are read back from their document forms, and the schema of verdicts accepts them
in no other form. For windows this takes the typed reading as well, since the schema lets numbers with
a point and integers of any size pass.

## Main definitions

* `Subject.WellFormed` : a name is present, and no name is empty.
* `Window.FitsInt64` : both ends are integers of 64 bits.

## Main statements

* `Subject.read_toJson`, `Window.read_toJson` : what was written is read back.
* `VerdictSchema.exists_subject_of_accepts`, `VerdictSchema.accepts_subject_toJson` : the accepted
  subjects.
* `VerdictSchema.exists_window_of_accepts`, `VerdictSchema.accepts_window_toJson` : the accepted
  windows.
-/

namespace ControlPlane

open Constraint Wire

/-! ### Subjects -/

namespace Subject

/-- What documents insist on in a subject. -/
structure WellFormed (s : Subject) : Prop where
  isEmpty_eq : s.isEmpty = false
  name_ne : ∀ name ∈ [s.project, s.group, s.plot, s.block], name ≠ some ""

/-- The names of a subject in the order of their keys. -/
def fields (s : Subject) : List (String × Option Json) :=
  [("blockId", s.block.map .string), ("groupId", s.group.map .string),
    ("plotId", s.plot.map .string), ("projectId", s.project.map .string)]

theorem members_eq_present (s : Subject) : s.members = Members.present
    [("projectId", s.project.map .string), ("groupId", s.group.map .string),
      ("plotId", s.plot.map .string), ("blockId", s.block.map .string)] := by
  obtain ⟨_ | _, _ | _, _ | _, _ | _⟩ := s <;> rfl

theorem sorted_fields (s : Subject) : (s.fields.map Prod.fst).Pairwise (· < ·) :=
  (by decide : ["blockId", "groupId", "plotId", "projectId"].Pairwise (· < ·))

theorem toJson_eq_present (s : Subject) : s.toJson = .object (Members.present s.fields) := by
  rw [toJson, Json.ofMembers, members_eq_present]
  refine congrArg Json.object (Members.ofList_present
    (by decide : ["projectId", "groupId", "plotId", "blockId"].Nodup) s.sorted_fields ?_ ?_)
  · exact (by decide : ∀ key ∈ ["projectId", "groupId", "plotId", "blockId"],
      key ∈ ["blockId", "groupId", "plotId", "projectId"])
  · simp [fields]

theorem wellFormed_toJson (s : Subject) : s.toJson.WellFormed := by
  rw [toJson_eq_present]
  refine Json.wellFormed_present s.sorted_fields fun f hf v hv => ?_
  have hstring {o : Option String} (hv : v ∈ o.map Json.string) : v.WellFormed := by
    obtain ⟨text, -, rfl⟩ := Option.map_eq_some_iff.1 hv
    trivial
  simp only [fields, List.mem_cons, List.not_mem_nil, or_false] at hf
  rcases hf with rfl | rfl | rfl | rfl <;> exact hstring hv

theorem get?_fields (s : Subject) (f : String × Option Json) (hf : f ∈ s.fields) :
    Members.get? (Members.present s.fields) f.1 = f.2 :=
  Members.get?_present (s.sorted_fields.imp String.ne_of_lt) hf

theorem present_fields_eq_nil_iff (s : Subject) :
    Members.present s.fields = [] ↔ s.isEmpty = true := by
  obtain ⟨_ | _, _ | _, _ | _, _ | _⟩ := s <;> simp [fields, isEmpty, Members.present]

theorem read_toJson (s : Subject) : (read : OfJson Subject) s.toJson = .ok s := by
  rw [toJson_eq_present]
  apply OfJson.record_object_eq_ok
  · refine Eq.trans (OfJson.takeMembers_present (fun o => (⟨none, none, none, o⟩ : Subject))
      rfl rfl fun _ _ => rfl) ?_
    refine Eq.trans (OfJson.takeMembers_present (fun o => (⟨none, o, none, s.block⟩ : Subject))
      rfl rfl fun _ _ => rfl) ?_
    refine Eq.trans (OfJson.takeMembers_present (fun o => (⟨none, s.group, o, s.block⟩ : Subject))
      rfl rfl fun _ _ => rfl) ?_
    exact OfJson.takeMembers_present (fun o => (⟨o, s.group, s.plot, s.block⟩ : Subject))
      rfl rfl fun _ _ => rfl
  · rfl

end Subject

/-! ### Windows -/

namespace Window

/-- Both ends are integers of 64 bits. -/
structure FitsInt64 (w : Window) : Prop where
  startTs_fits : OfJson.FitsInt64 w.startTs
  endTs_fits : OfJson.FitsInt64 w.endTs

theorem toJson_eq (w : Window) :
    w.toJson = .object [("endTs", .integer w.endTs), ("startTs", .integer w.startTs)] := by
  refine congrArg Json.object (@Members.ofList_present
    [("startTs", some (.integer w.startTs)), ("endTs", some (.integer w.endTs))]
    [("endTs", some (.integer w.endTs)), ("startTs", some (.integer w.startTs))]
    (by decide : ["startTs", "endTs"].Nodup) (by decide : ["endTs", "startTs"].Pairwise (· < ·))
    (by decide : ∀ key ∈ ["startTs", "endTs"], key ∈ ["endTs", "startTs"]) (by simp))

theorem wellFormed_toJson {w : Window} (h : w.FitsInt64) : w.toJson.WellFormed := by
  rw [toJson_eq, Json.WellFormed]
  exact ⟨Members.sorted_of_keys ["endTs", "startTs"] rfl (by decide), h.endTs_fits.wellFormed,
    h.startTs_fits.wellFormed, trivial⟩

theorem read_toJson {w : Window} (h : w.FitsInt64) : (read : OfJson Window) w.toJson = .ok w := by
  rw [toJson_eq]
  apply OfJson.record_object_eq_ok
  · rw [OfJson.takeMembers_cons rfl (map_eq_ok.2 ⟨_, OfJson.int64_integer h.endTs_fits, rfl⟩),
      OfJson.takeMembers_cons rfl (map_eq_ok.2 ⟨_, OfJson.int64_integer h.startTs_fits, rfl⟩)]
    rfl
  · rfl

/-- A window was read from two integers of 64 bits. -/
theorem exists_integer_of_read {members : Members} {w : Window}
    (h : (read : OfJson Window) (.object members) = .ok w) {key : String} {v : Json}
    (hv : Members.get? members key = some v) (hkey : key = "startTs" ∨ key = "endTs") :
    ∃ n, v = .integer n ∧ OfJson.FitsInt64 n := by
  rcases hkey with rfl | rfl
  · obtain ⟨a, b, hb⟩ := OfJson.exists_store_eq_ok h hv rfl
    obtain ⟨n, hn, -⟩ := map_eq_ok.1 (hb : (OfJson.int64 v).map _ = .ok b)
    exact ⟨n, OfJson.int64_eq_ok hn⟩
  · obtain ⟨a, b, hb⟩ := OfJson.exists_store_eq_ok h hv rfl
    obtain ⟨n, hn, -⟩ := map_eq_ok.1 (hb : (OfJson.int64 v).map _ = .ok b)
    exact ⟨n, OfJson.int64_eq_ok hn⟩

theorem fitsInt64_of_read {w w' : Window} (h : (read : OfJson Window) w.toJson = .ok w') :
    w.FitsInt64 := by
  rw [toJson_eq] at h
  obtain ⟨start, ⟨⟩, hstart⟩ := exists_integer_of_read h rfl (.inl rfl)
  obtain ⟨finish, ⟨⟩, hfinish⟩ := exists_integer_of_read h rfl (.inr rfl)
  exact ⟨hstart, hfinish⟩

end Window

/-! ### The schema -/

namespace VerdictSchema

variable {v : Json} {members : Members} {key : String}

theorem holdsIfPresent_filled_iff :
    HoldsIfPresent Empty.elim members (key, filled) ↔
      ∃ o : Option String, Members.get? members key = o.map .string ∧ ∀ s ∈ o, s ≠ "" :=
  holdsIfPresent_iff fun _ _ => accepts_filled_iff

theorem mem_subject_keys_iff {s : Subject} {key : String} :
    key ∈ subjectShape.properties.map Prod.fst ↔ key ∈ s.fields.map Prod.fst := by
  simp only [subjectShape, RecordShape.properties, Subject.fields, List.map_cons, List.map_nil,
    List.mem_cons, List.not_mem_nil]
  tauto

theorem accepts_subjectShape_iff (hs : Members.Sorted members) :
    accepts Empty.elim (.object members) (.record subjectShape) = true ↔
      1 ≤ members.length ∧ (∀ key ∈ members.keys, key ∈ subjectShape.properties.map Prod.fst) ∧
      HoldsIfPresent Empty.elim members ("projectId", filled) ∧
      HoldsIfPresent Empty.elim members ("groupId", filled) ∧
      HoldsIfPresent Empty.elim members ("plotId", filled) ∧
      HoldsIfPresent Empty.elim members ("blockId", filled) := by
  refine (accepts_shape_iff hs (by decide) (by decide)).trans ?_
  simp [subjectShape, RecordShape.minProperties, RecordShape.required, RecordShape.properties]

/-- What the schema of subjects accepts is the document form of a subject. -/
theorem exists_subject_of_accepts (hv : v.WellFormed)
    (ha : accepts Empty.elim v (.record subjectShape) = true) :
    ∃ s : Subject, v = s.toJson ∧ s.WellFormed := by
  obtain ⟨members, rfl⟩ := exists_object_of_accepts ha
  obtain ⟨hlen, hk, hproject, hgroup, hplot, hblock⟩ := (accepts_subjectShape_iff hv.sorted).1 ha
  obtain ⟨project, hproject, hp⟩ := holdsIfPresent_filled_iff.1 hproject
  obtain ⟨group, hgroup, hg⟩ := holdsIfPresent_filled_iff.1 hgroup
  obtain ⟨plot, hplot, hl⟩ := holdsIfPresent_filled_iff.1 hplot
  obtain ⟨block, hblock, hb⟩ := holdsIfPresent_filled_iff.1 hblock
  let s : Subject := ⟨project, group, plot, block⟩
  have hmembers : members = Members.present s.fields :=
    Members.eq_present s.sorted_fields hv.sorted (fun key h => mem_subject_keys_iff.1 (hk key h))
      (by simp [s, Subject.fields, hproject, hgroup, hplot, hblock])
  refine ⟨s, by rw [hmembers, s.toJson_eq_present], ?_, ?_⟩
  · rw [← Bool.not_eq_true, ← s.present_fields_eq_nil_iff, ← hmembers]
    exact List.ne_nil_of_length_pos hlen
  · have hne {o : Option String} (h : ∀ name ∈ o, name ≠ "") : o ≠ some "" := fun ho => h "" ho rfl
    simp only [List.forall_mem_cons]
    exact ⟨hne hp, hne hg, hne hl, hne hb, by simp⟩

/-- The schema of subjects accepts the document form of every well-formed subject. -/
theorem accepts_subject_toJson {s : Subject} (h : s.WellFormed) :
    accepts Empty.elim s.toJson (.record subjectShape) = true := by
  have hget := s.get?_fields
  have hne {o : Option String} (ho : o ∈ [s.project, s.group, s.plot, s.block]) :
      ∀ name ∈ o, name ≠ "" := fun name hn he => h.name_ne o ho (he ▸ hn)
  simp only [Subject.fields, List.forall_mem_cons] at hget
  obtain ⟨hblock, hgroup, hplot, hproject, -⟩ := hget
  have hpresent : Members.present s.fields ≠ [] := fun hnil =>
    Bool.false_ne_true (h.isEmpty_eq.symm.trans (s.present_fields_eq_nil_iff.1 hnil))
  rw [s.toJson_eq_present]
  exact (accepts_subjectShape_iff (Members.sorted_present s.sorted_fields)).2
    ⟨List.length_pos_iff.2 hpresent,
      fun key hk => mem_subject_keys_iff.2 ((Members.keys_present_sublist _).subset hk),
      holdsIfPresent_filled_iff.2 ⟨_, hproject, hne (by simp)⟩,
      holdsIfPresent_filled_iff.2 ⟨_, hgroup, hne (by simp)⟩,
      holdsIfPresent_filled_iff.2 ⟨_, hplot, hne (by simp)⟩,
      holdsIfPresent_filled_iff.2 ⟨_, hblock, hne (by simp)⟩⟩

/-! ### Windows -/

/-- A time that the schema lets pass and that is read as an integer of 64 bits. -/
theorem exists_time_of_holds (h : Holds Empty.elim members (key, time))
    (hread : ∀ v, Members.get? members key = some v → ∃ n, v = .integer n ∧ OfJson.FitsInt64 n) :
    ∃ n, Members.get? members key = some (.integer n) ∧ 0 ≤ n ∧ OfJson.FitsInt64 n := by
  obtain ⟨v, hv, ha⟩ := h
  obtain ⟨n, rfl, hn⟩ := hread v hv
  have hleast : n < 0 ↔ False := by simpa [Json.isBelow] using (accepts_integer_iff.1 ha).1
  exact ⟨n, hv, Int.not_lt.1 hleast.1, hn⟩

theorem holds_time {n : Int} (hv : Members.get? members key = some (.integer n)) (hn : 0 ≤ n) :
    Holds Empty.elim members (key, time) :=
  ⟨_, hv, accepts_integer_iff.2 ⟨by simpa [Json.isBelow] using hn, rfl⟩⟩

theorem accepts_windowShape_iff (hs : Members.Sorted members) :
    accepts Empty.elim (.object members) (.record windowShape) = true ↔
      (∀ key ∈ members.keys, key ∈ ["startTs", "endTs"]) ∧
        Holds Empty.elim members ("startTs", time) ∧ Holds Empty.elim members ("endTs", time) := by
  have hshape := @accepts_shape_iff _ Empty.elim members windowShape hs (by decide) (by decide)
  rw [hshape]
  simp [windowShape, RecordShape.minProperties, RecordShape.required, RecordShape.properties]

/-- The windows that the schema accepts, as far as they are read. -/
theorem exists_window_of_accepts (hv : v.WellFormed)
    (ha : accepts Empty.elim v (.record windowShape) = true) {w : Window}
    (hw : (Window.read : OfJson Window) v = .ok w) :
    ∃ w : Window, v = w.toJson ∧ 0 ≤ w.startTs ∧ 0 ≤ w.endTs ∧ w.FitsInt64 := by
  obtain ⟨members, rfl⟩ := exists_object_of_accepts ha
  obtain ⟨hk, hstart, hend⟩ := (accepts_windowShape_iff hv.sorted).1 ha
  obtain ⟨start, hstart, hs, hsf⟩ := exists_time_of_holds hstart fun _ h =>
    Window.exists_integer_of_read hw h (.inl rfl)
  obtain ⟨finish, hend, hf, hff⟩ := exists_time_of_holds hend fun _ h =>
    Window.exists_integer_of_read hw h (.inr rfl)
  refine ⟨⟨start, finish⟩, ?_, hs, hf, hsf, hff⟩
  rw [Window.toJson_eq]
  refine congrArg Json.object (Members.eq_of_forall_mem hv.sorted
    (Members.sorted_of_keys ["endTs", "startTs"] rfl (by decide)) (fun key h => ?_)
    (by simp [hstart, hend]))
  simpa [or_comm] using hk key h

theorem accepts_window_toJson {w : Window} (hs : 0 ≤ w.startTs) (hf : 0 ≤ w.endTs) :
    accepts Empty.elim w.toJson (.record windowShape) = true := by
  rw [Window.toJson_eq]
  refine (accepts_windowShape_iff (Members.sorted_of_keys ["endTs", "startTs"] rfl (by decide))).2
    ⟨by simp, holds_time rfl hs, holds_time rfl hf⟩

end VerdictSchema

end ControlPlane
