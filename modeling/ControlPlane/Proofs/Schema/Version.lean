import ControlPlane.Schema.Basic

/-!
# Versions

The check of versions consumes a text from left to right. The texts that it passes are described here
by their parts: three runs of digits with points between them.

## Main definitions

* `IsDigits` : a run of digits.
* `IsSemver` : the form of versions.

## Main statements

* `isVersion_iff` : the check passes exactly the texts of this form.
-/

namespace ControlPlane

/-- At least one character, each of them one of the ten ASCII digits. -/
def IsDigits (run : List Char) : Prop := run ≠ [] ∧ ∀ c ∈ run, c.isDigit = true

/-- Three runs of digits with points between them. -/
def IsSemver (s : String) : Prop :=
  ∃ major minor patch, IsDigits major ∧ IsDigits minor ∧ IsDigits patch ∧
    s.toList = major ++ '.' :: (minor ++ '.' :: patch)

theorem IsSemver.eq_point_or_isDigit {version : String} (h : IsSemver version) {c : Char}
    (hc : c ∈ version.toList) : c = '.' ∨ c.isDigit = true := by
  obtain ⟨major, minor, patch, hmajor, hminor, hpatch, h⟩ := h
  rw [h] at hc
  simp only [List.mem_append, List.mem_cons] at hc
  rcases hc with hc | rfl | hc | rfl | hc
  · exact .inr (hmajor.2 c hc)
  · exact .inl rfl
  · exact .inr (hminor.2 c hc)
  · exact .inl rfl
  · exact .inr (hpatch.2 c hc)

theorem IsSemver.ne_empty {version : String} (h : IsSemver version) : version ≠ "" := by
  rintro rfl
  obtain ⟨_, _, _, -, -, -, h⟩ := h
  simp at h

/-- A run of digits ends where the characters do, or at one that is no digit. -/
def EndsRun (rest : List Char) : Prop := ∀ c ∈ rest.head?, c.isDigit = false

theorem endsRun_nil : EndsRun [] := by simp [EndsRun]

theorem endsRun_point (rest : List Char) : EndsRun ('.' :: rest) := by
  rintro c ⟨⟩
  decide

theorem EndsRun.dropWhile_eq {rest : List Char} (h : EndsRun rest) :
    rest.dropWhile Char.isDigit = rest := by
  cases rest with
  | nil => rfl
  | cons c rest =>
    have hc : c.isDigit = false := h c rfl
    rw [List.dropWhile_cons, if_neg (by simp [hc])]

theorem afterDigits?_append {run rest : List Char} (h : IsDigits run) (hr : EndsRun rest) :
    afterDigits? (run ++ rest) = some rest := by
  obtain ⟨c, run, rfl⟩ := List.exists_cons_of_ne_nil h.1
  have hc : c.isDigit = true := h.2 c List.mem_cons_self
  rw [afterDigits?, List.cons_append, List.head?_cons, Option.any_some, if_pos hc,
    ← List.cons_append, List.dropWhile_append_of_pos h.2, hr.dropWhile_eq]

theorem exists_run_of_afterDigits? {text rest : List Char} (h : afterDigits? text = some rest) :
    ∃ run, IsDigits run ∧ text = run ++ rest := by
  unfold afterDigits? at h
  split at h
  · next hd =>
    obtain rfl := Option.some.inj h
    refine ⟨text.takeWhile Char.isDigit, ⟨?_, fun c hc => ?_⟩, List.takeWhile_append_dropWhile.symm⟩
    · cases text with
      | nil => exact absurd hd (by simp)
      | cons c text =>
        have hc : c.isDigit = true := by simpa using hd
        simp [hc]
    · exact List.all_eq_true.1 List.all_takeWhile c hc
  · exact absurd h (by simp)

theorem afterPoint?_eq_some_iff {text rest : List Char} :
    afterPoint? text = some rest ↔ text = '.' :: rest := by
  unfold afterPoint?
  split
  · simp
  · next h =>
    refine ⟨fun hn => absurd hn (by simp), fun ht => absurd ht (h rest)⟩

/-- **The check of versions passes exactly the texts that are three runs of digits with points
between them.** -/
theorem isVersion_iff {s : String} : isVersion s = true ↔ IsSemver s := by
  simp only [isVersion, beq_iff_eq, Option.bind_eq_bind, Option.bind_eq_some_iff,
    afterPoint?_eq_some_iff]
  constructor
  · rintro ⟨_, hmajor, _, rfl, _, hminor, _, rfl, hpatch⟩
    obtain ⟨major, hma, hs⟩ := exists_run_of_afterDigits? hmajor
    obtain ⟨minor, hmi, rfl⟩ := exists_run_of_afterDigits? hminor
    obtain ⟨patch, hpa, rfl⟩ := exists_run_of_afterDigits? hpatch
    exact ⟨major, minor, patch, hma, hmi, hpa, by rw [hs, List.append_nil]⟩
  · rintro ⟨major, minor, patch, hmajor, hminor, hpatch, hs⟩
    refine ⟨_, hs ▸ afterDigits?_append hmajor (endsRun_point _), _, rfl,
      _, afterDigits?_append hminor (endsRun_point _), _, rfl, ?_⟩
    simpa using afterDigits?_append hpatch endsRun_nil

end ControlPlane
