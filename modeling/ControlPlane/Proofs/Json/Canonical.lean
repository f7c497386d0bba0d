import ControlPlane.Lifecycle.ProblemState
import ControlPlane.Proofs.Json.RoundTrip

/-!
# Canonical text identifies the value

The canonical text of a value without doubles is a document of this very value. So no two such values
have one canonical text, and subjects that compete with each other are equal as values and not in their
looks only. Doubles are left out: a whole double is written like the integer.

## Main statements

* `Json.permutes_canonicalStyle` : sorting members by their texts loses and repeats none.
* `Json.canonical_identifies` : what canonical text says about values and about governance keys.
-/

namespace ControlPlane.Json

variable {key value : List Char} {members sorted : List (List Char × List Char)}

/-! ### Sorting by text -/

theorem placeByText_perm (h : key ∉ members.map Prod.fst) :
    (placeByText key value members).Perm ((key, value) :: members) := by
  fun_induction placeByText key value members with
  | case1 => exact .refl _
  | case2 => exact .refl _
  | case3 => exact absurd List.mem_cons_self h
  | case4 k v rest _ _ ih =>
    have hrest : key ∉ rest.map Prod.fst := fun hmem => h (List.mem_cons_of_mem _ hmem)
    exact ((ih hrest).cons _).trans (.swap ..)

private theorem foldl_placeByText_perm (h : ((sorted ++ members).map Prod.fst).Nodup) :
    (members.foldl (fun sorted m => placeByText m.1 m.2 sorted) sorted).Perm (sorted ++ members) := by
  induction members generalizing sorted with
  | nil => simp
  | cons m rest ih =>
    have hmiddle : (sorted ++ m :: rest).Perm (m :: (sorted ++ rest)) := List.perm_middle
    have hnodup := (hmiddle.map Prod.fst).nodup_iff.1 h
    have hplace : (placeByText m.1 m.2 sorted).Perm (m :: sorted) := by
      refine placeByText_perm fun hm => (List.nodup_cons.1 hnodup).1 ?_
      rw [List.map_append]
      exact List.mem_append_left _ hm
    have hplaced : (placeByText m.1 m.2 sorted ++ rest).Perm (m :: (sorted ++ rest)) :=
      hplace.append_right rest
    exact (ih ((hplaced.map Prod.fst).nodup_iff.2 hnodup)).trans (hplaced.trans hmiddle.symm)

/-- **Sorting members by the texts of their keys loses and repeats none.** -/
theorem permutes_canonicalStyle : canonicalStyle.Permutes :=
  fun _ h => foldl_placeByText_perm h

/-! ### Canonical text -/

/-- **Canonical text identifies the value.** The canonical text of a value without doubles is a document
of this value, unless the value nests too deep for a document. Two such values, however deep they nest,
are equal if their canonical texts are, and so are the subjects of states that share a governance key. -/
theorem canonical_identifies :
    (∀ v : Json, v.FloatFree → v.WellFormed → v.depth ≤ nestingLimit →
      parse (Bytes.ofText v.canonical) = .ok v) ∧
    (∀ v w : Json, v.FloatFree → w.FloatFree → v.WellFormed → w.WellFormed →
      v.canonical = w.canonical → v = w) ∧
    ∀ p q : ProblemState, p.subject.FloatFree → q.subject.FloatFree → p.subject.WellFormed →
      q.subject.WellFormed → p.key = q.key → p.subject = q.subject := by
  have hinjective : ∀ v w : Json, v.FloatFree → w.FloatFree → v.WellFormed → w.WellFormed →
      v.canonical = w.canonical → v = w := fun v w hfreev hfreew hv hw h =>
    eq_of_chars_eq permutes_canonicalStyle hfreev hfreew hv hw (String.ofList_injective h)
  refine ⟨fun v hfree hv hdepth => ?_, hinjective, fun p q hfreep hfreeq hp hq h => ?_⟩
  · rw [canonical, Bytes.ofText_ofList]
    exact parse_chars permutes_canonicalStyle hfree hv hdepth
  · exact hinjective _ _ hfreep hfreeq hp hq (congrArg GovernanceKey.subject h)

/-- The members of a subject: the greatest and the least integer, a text in need of escapes, and keys
whose texts stand in another order than the keys. -/
def plotMembers : Members :=
  [("\n", .array [.null, .bool true, .object []]), ("plot", .integer 18446744073709551615),
    ("plot!", .integer (-9223372036854775808)), ("דּ", .string "\"north\"\\\x01é"), ("😀", .bool false)]

theorem floatFree_plotMembers : (Json.object plotMembers).FloatFree := by
  refine .object ?_
  simp only [plotMembers, List.forall_mem_cons]
  refine ⟨.array ?_, .integer _, .integer _, .string _, .bool _, by simp⟩
  simp only [List.forall_mem_cons]
  exact ⟨.null, .bool _, .object (by simp), by simp⟩

theorem wellFormed_plotMembers : (Json.object plotMembers).WellFormed := by
  rw [WellFormed, wellFormedMembers_iff]
  refine ⟨Members.sorted_of_keys ["\n", "plot", "plot!", "דּ", "😀"] rfl (by decide), ?_⟩
  simp [plotMembers, WellFormed, WellFormedItems, WellFormedMembers, Members.Sorted, leastInteger,
    integerBound]

/-- A state about the subject. -/
def plotState (id : String) (subject : Json) : ProblemState :=
  { id, createdAt := 0, subject, scale := "PLOT", window := ⟨0, 1⟩, problemType := "PEST",
    inputDigest := none }

theorem canonical_identifies_plotMembers :
    (Json.object plotMembers).FloatFree ∧ (Json.object plotMembers).WellFormed ∧
      (Json.object plotMembers).depth ≤ nestingLimit ∧
      parse (Bytes.ofText (Json.object plotMembers).canonical) = .ok (.object plotMembers) ∧
      (ofMembers plotMembers.reverse).canonical = (Json.object plotMembers).canonical ∧
      ofMembers plotMembers.reverse = .object plotMembers ∧
      (plotState "p1" (ofMembers plotMembers.reverse)).key =
        (plotState "p2" (.object plotMembers)).key ∧
      (plotState "p1" (ofMembers plotMembers.reverse)).subject =
        (plotState "p2" (.object plotMembers)).subject := by
  have hfree := floatFree_plotMembers
  have hwellFormed := wellFormed_plotMembers
  have hmembers : Members.ofList plotMembers.reverse = plotMembers :=
    Members.ofList_eq_of_perm hwellFormed.sorted plotMembers.reverse_perm
  have hfreeReversed : (ofMembers plotMembers.reverse).FloatFree := by rwa [ofMembers, hmembers]
  have hwellFormedReversed : (ofMembers plotMembers.reverse).WellFormed := by
    rwa [ofMembers, hmembers]
  have hcanonical : (ofMembers plotMembers.reverse).canonical =
      (Json.object plotMembers).canonical := by decide +kernel
  have hkey : (plotState "p1" (ofMembers plotMembers.reverse)).key =
      (plotState "p2" (.object plotMembers)).key :=
    congrArg (fun text => GovernanceKey.mk text "PLOT" "PEST" "") hcanonical
  have hdepth : (Json.object plotMembers).depth ≤ nestingLimit := by decide
  exact ⟨hfree, hwellFormed, hdepth, canonical_identifies.1 _ hfree hwellFormed hdepth, hcanonical,
    canonical_identifies.2.1 _ _ hfreeReversed hfree hwellFormedReversed hwellFormed hcanonical,
    hkey, canonical_identifies.2.2 _ _ hfreeReversed hfree hwellFormedReversed hwellFormed hkey⟩

end ControlPlane.Json
