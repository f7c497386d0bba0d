import ControlPlane.Snapshot.InputPath

/-!
# Where input paths begin

What a path leads to depends on the object of its first segment, and if there is a second segment,
on what this object has under the name of it. The name of a segment is its text, less the pair of
brackets that may end it. Only the name of an object alone, which is a path of one segment, leads to
the object as a whole.

## Main definitions

* `InputPath.Segment.name` : the key that a segment looks up.

## Main statements

* `InputPath.Segment.eq_name_or_eq_append` : a text is the name of its segment or the name in front
  of brackets.
* `InputPath.eq_of_segments_eq_singleton` : a path of one segment is this segment.
* `InputPath.resolve?_congr` : what a path leads to depends on the first two segments.
-/

namespace ControlPlane.InputPath

/-! ### Segments -/

/-- The key that a segment looks up. -/
def Segment.name : Segment → String
  | .member name | .list name => name

/-- A text is the key that its segment looks up, or this key with a pair of brackets behind it. -/
theorem Segment.eq_name_or_eq_append (s : String) :
    s = (ofText s).name ∨ s = (ofText s).name ++ "[]" := by
  rw [ofText]
  split
  · next name hreverse =>
    right
    have htext : s.toList = name.reverse ++ ['[', ']'] := by
      rw [← List.reverse_reverse s.toList, hreverse]
      simp
    refine String.toList_injective ?_
    rw [String.toList_append, Segment.name, String.toList_ofList, htext]
    rfl
  · exact .inl rfl

/-- A segment looks at the value of its key and at nothing else. -/
theorem descend_cons_congr {segment : Segment} {rest : List Segment} {v w : Json}
    (h : v.get? segment.name = w.get? segment.name) :
    descend (segment :: rest) v = descend (segment :: rest) w := by
  cases segment with
  | member name =>
    have hname : v.get? name = w.get? name := h
    rw [descend, descend, hname]
  | list name =>
    have hname : v.get? name = w.get? name := h
    rw [descend, descend, hname]

/-- The runs between points are what the text is split into at its points. -/
theorem runs_eq_splitOn (text : List Char) : runs text = text.splitOn '.' := by
  induction text with
  | nil => rfl
  | cons c rest ih =>
    rw [runs, ih, List.splitOn, List.splitOn, List.splitOnP_cons_eq_if_modifyHead]
    by_cases hc : c = '.'
    · rw [if_pos hc, if_pos (by simpa using hc)]
    · rw [if_neg hc, if_neg (by simpa using hc)]
      cases hsplit : rest.splitOnP (· == '.') with
      | nil => exact absurd hsplit (List.splitOnP_ne_nil _ rest)
      | cons run others => rfl

/-- A path of one segment is this segment. -/
theorem eq_of_segments_eq_singleton {path segment : String} (h : segments path = [segment]) :
    path = segment := by
  obtain ⟨run, hruns, rfl⟩ := List.map_eq_singleton_iff.1 h
  have hjoin := path.toList.intercalate_splitOn '.'
  rw [← runs_eq_splitOn, hruns] at hjoin
  refine String.toList_injective ?_
  rw [String.toList_ofList, ← hjoin]
  simp

/-! ### What a path leads to -/

theorem Root.eq_text_of_ofText? {s : String} {root : Root} (h : ofText? s = some root) :
    s = root.text := by
  rw [ofText?] at h
  have hroot := List.find?_some h
  exact (beq_iff_eq.1 hroot).symm

variable {a b : Inputs} {path : String}

/-- **What a path leads to depends on the object that it starts from, and on what this object has
under the name of the second segment.** Here the objects may only differ in the problem state. -/
theorem resolve?_congr (huncertainty : a.uncertaintyEnvelope = b.uncertaintyEnvelope)
    (hpermission : a.permissionSet = b.permissionSet) (hbare : path ≠ "problem_state")
    (hsecond : ∀ second rest, segments path = "problem_state" :: second :: rest →
      a.problemState.get? (Segment.ofText second).name =
        b.problemState.get? (Segment.ofText second).name) :
    resolve? a path = resolve? b path := by
  rw [resolve?, resolve?]
  cases hsegments : segments path with
  | nil => rfl
  | cons first rest =>
    simp only
    cases hroot : Root.ofText? first with
    | none => rfl
    | some root =>
      obtain rfl := Root.eq_text_of_ofText? hroot
      cases root with
      | problemState =>
        cases rest with
        | nil => exact absurd (eq_of_segments_eq_singleton hsegments) hbare
        | cons second rest => exact descend_cons_congr (hsecond second rest hsegments)
      | uncertaintyEnvelope =>
        simp only [Option.bind_eq_bind, Option.bind_some, Inputs.at, huncertainty]
      | permissionSet =>
        simp only [Option.bind_eq_bind, Option.bind_some, Inputs.at, hpermission]

end ControlPlane.InputPath
