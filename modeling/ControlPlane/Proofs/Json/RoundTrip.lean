import ControlPlane.Proofs.Json.Members
import ControlPlane.Proofs.Json.Scalar
import Mathlib.Data.List.Nodup
import Mathlib.Data.List.Perm.Basic

/-!
# Printed values are read back

A printed value without doubles is read as the value that was printed, in whatever order the printer
arranges members, because the reader puts each member into its place again. How deep the reader may go
is the only bound.

## Main definitions

* `Json.FloatFree` : no number in a value is a double.
* `Json.Reads` : a reader takes just this text for a value.
* `Json.Style.Permutes` : a printer that only changes the order of members.

## Main statements

* `Json.readItems_separated`, `Json.readMembers_separated` : lists and objects from their parts.
* `Json.reads_readValue` : a printed value is read back.
-/

namespace ControlPlane.Json

open Bytes (ofChars ofChars_nil ofChars_cons ofChars_append ofChars_cons_of_ascii)

/-- No number in a value is a double. -/
inductive FloatFree : Json → Prop
  | null : FloatFree .null
  | bool (b : Bool) : FloatFree (.bool b)
  | integer (n : Int) : FloatFree (.integer n)
  | string (s : String) : FloatFree (.string s)
  | array {items : List Json} (h : ∀ v ∈ items, FloatFree v) : FloatFree (.array items)
  | object {members : Members} (h : ∀ m ∈ members, FloatFree m.2) : FloatFree (.object members)

variable {ε α : Type} {fault : Malformed → ε} {rest : Bytes}

/-- A reader takes just this text for a value, if nothing behind it goes on with a number. -/
def Reads (reader : Bytes → Except ε (α × Bytes)) (text : List Char) (a : α) : Prop :=
  ∀ rest, EndsNumber rest → reader (ofChars text ++ rest) = .ok (a, rest)

/-- A text starts with a byte that neither is blank nor closes a list or an object. -/
def Opens (text : Bytes) : Prop :=
  ∃ b bytes, text = b :: bytes ∧ isBlankByte b = false ∧ b ≠ 0x5d ∧ b ≠ 0x7d

/-! ### Between the parts -/

theorem skipBlank_cons {b : UInt8} (h : isBlankByte b = false) : skipBlank (b :: rest) = b :: rest :=
  List.dropWhile_cons_of_neg (by simp [h])

theorem Opens.append {text : Bytes} (h : Opens text) (rest : Bytes) : Opens (text ++ rest) := by
  obtain ⟨b, bytes, rfl, hblank, hclose⟩ := h
  exact ⟨b, bytes ++ rest, rfl, hblank, hclose⟩

/-- Neither a comma nor a closing bracket goes on with a number. -/
theorem endsNumber_cons {b : UInt8} (h : b = 0x2c ∨ b = 0x5d ∨ b = 0x7d) :
    EndsNumber (b :: rest) := by
  intro c hc
  obtain rfl := Option.some.inj hc
  rcases h with rfl | rfl | rfl <;> decide

/-- The first of several texts stands in front of a comma. -/
theorem ofChars_separated_append (text next : List Char) (texts : List (List Char)) (rest : Bytes) :
    ofChars (separated (text :: next :: texts)) ++ rest =
      ofChars text ++ 0x2c :: (ofChars (separated (next :: texts)) ++ rest) := by
  change ofChars (text ++ ',' :: separated (next :: texts)) ++ rest = _
  rw [ofChars_append, ofChars_cons_of_ascii (by decide), List.append_assoc]
  rfl

theorem opens_separated {text : List Char} (h : Opens (ofChars text)) (texts : List (List Char))
    (rest : Bytes) : Opens (ofChars (separated (text :: texts)) ++ rest) := by
  cases texts with
  | nil => exact h.append _
  | cons next texts =>
    rw [ofChars_separated_append]
    exact h.append _

/-- Texts with commas between them and one byte more have more bytes than there are commas. -/
theorem length_lt_length_separated (text : List Char) (texts : List (List Char)) (b : UInt8)
    (rest : Bytes) : texts.length < (ofChars (separated (text :: texts)) ++ b :: rest).length := by
  induction texts generalizing text with
  | nil =>
    rw [List.length_append, List.length_cons]
    exact Nat.lt_of_lt_of_le (Nat.succ_pos _) (Nat.le_add_left ..)
  | cons next texts ih =>
    rw [ofChars_separated_append, List.length_append, List.length_cons, List.length_cons]
    exact Nat.lt_of_lt_of_le (Nat.succ_lt_succ (ih next)) (Nat.le_add_left ..)

/-! ### Lists -/

theorem afterItem_next {part : Bytes} (h : Opens part) :
    afterItem (0x2c :: part) = .ok (.next part) := by
  obtain ⟨b, bytes, rfl, hblank, hclose, -⟩ := h
  rw [afterItem, skipBlank_cons (by decide)]
  simp only [skipBlank_cons hblank, if_neg hclose]
  rfl

variable {item : Bytes → Except ε (α × Bytes)}

private theorem readItemsFrom_separated (fault : Malformed → ε) {text : List Char}
    {texts : List (List Char)} {a : α} {as : List α} (hfirst : Reads item text a)
    (h : List.Forall₂ (Reads item) texts as) (hopens : ∀ t ∈ texts, Opens (ofChars t)) {fuel : Nat}
    (hfuel : texts.length < fuel) (rest : Bytes) :
    readItemsFrom fault item fuel (ofChars (separated (text :: texts)) ++ 0x5d :: rest) =
      .ok (a :: as, rest) := by
  induction h generalizing text a fuel with
  | nil =>
    obtain ⟨fuel, rfl⟩ := Nat.exists_eq_add_of_lt hfuel
    rw [separated, readItemsFrom, hfirst _ (endsNumber_cons (.inr (.inl rfl)))]
    rfl
  | cons hnext _ ih =>
    obtain ⟨fuel, rfl⟩ := Nat.exists_eq_add_of_lt hfuel
    obtain ⟨hopen, hopens⟩ := List.forall_mem_cons.1 hopens
    rw [ofChars_separated_append, readItemsFrom, hfirst _ (endsNumber_cons (.inl rfl))]
    simp only [bind, Except.bind, afterItem_next (opens_separated hopen _ _), mapError_ok]
    rw [ih hnext hopens (by rw [List.length_cons]; omega)]
    rfl

/-- **A list is read from its items.** -/
theorem readItems_separated {texts : List (List Char)} {as : List α}
    (h : List.Forall₂ (Reads item) texts as) (hopens : ∀ t ∈ texts, Opens (ofChars t))
    (rest : Bytes) :
    readItems fault item (ofChars (separated texts) ++ 0x5d :: rest) = .ok (as, rest) := by
  cases h with
  | nil => rfl
  | @cons text a texts as hfirst hothers =>
    obtain ⟨hopen, hopens⟩ := List.forall_mem_cons.1 hopens
    obtain ⟨b, bytes, hbytes, hblank, hclose, -⟩ := opens_separated hopen texts (0x5d :: rest)
    have hlength := length_lt_length_separated text texts 0x5d rest
    have hread := readItemsFrom_separated fault hfirst hothers hopens hlength rest
    rw [hbytes] at hread ⊢
    rw [readItems, skipBlank_cons hblank]
    simp only [if_neg hclose]
    exact hread

/-! ### Members -/

/-- The text of a member from the texts of its key and its value. -/
def memberText (m : List Char × List Char) : List Char := m.1 ++ ':' :: m.2

variable {value : Bytes → Except Malformed (Json × Bytes)}

/-- A text is that of a key, and one from which a value is read. -/
def ReadsMember (value : Bytes → Except Malformed (Json × Bytes)) (texts : List Char × List Char)
    (m : String × Json) : Prop :=
  texts.1 = quoted m.1 ∧ Reads value texts.2 m.2

theorem opens_memberText {texts : List Char × List Char} {m : String × Json}
    (h : ReadsMember value texts m) : Opens (ofChars (memberText texts)) := by
  rw [memberText, ofChars_append, h.1, ofChars_quoted_append]
  exact ⟨0x22, _, rfl, by decide⟩

theorem readKey_memberText {texts : List Char × List Char} {m : String × Json}
    (h : ReadsMember value texts m) (rest : Bytes) :
    readKey (ofChars (memberText texts) ++ rest) = .ok (m.1, 0x3a :: (ofChars texts.2 ++ rest)) := by
  rw [memberText, ofChars_append, List.append_assoc, h.1, ofChars_quoted_append,
    ofChars_cons_of_ascii (by decide)]
  exact readString_escaped _ _

theorem readMember_of_reads {texts : List Char × List Char} {m : String × Json}
    (h : ReadsMember value texts m) (members : Members) (hrest : EndsNumber rest) :
    readMember value members m.1 (0x3a :: (ofChars texts.2 ++ rest)) =
      .ok (members.insert m.1 m.2, rest) := by
  rw [readMember, afterColon, skipBlank_cons (by decide)]
  simp only [if_pos, bind, Except.bind, h.2 rest hrest]
  rfl

theorem afterMember_next {part : Bytes} (h : Opens part) :
    afterMember (0x2c :: part) = .ok (.next part) := by
  obtain ⟨b, bytes, rfl, hblank, -, hclose⟩ := h
  rw [afterMember, skipBlank_cons (by decide)]
  simp only [skipBlank_cons hblank, if_neg hclose]
  rfl

private theorem readMembersFrom_separated {texts : List Char × List Char} {m : String × Json}
    {others : List (List Char × List Char)} {ms : List (String × Json)}
    (hfirst : ReadsMember value texts m) (h : List.Forall₂ (ReadsMember value) others ms) {fuel : Nat}
    (hfuel : others.length < fuel) (account : Members) (rest : Bytes) :
    readMembersFrom id (readMember value) fuel account
        (ofChars (separated ((texts :: others).map memberText)) ++ 0x7d :: rest) =
      .ok ((m :: ms).foldl (fun sorted m => sorted.insert m.1 m.2) account, rest) := by
  induction h generalizing texts m fuel account with
  | nil =>
    obtain ⟨fuel, rfl⟩ := Nat.exists_eq_add_of_lt hfuel
    rw [List.map_cons, List.map_nil, separated, readMembersFrom, readKey_memberText hfirst]
    simp only [mapError_ok, bind, Except.bind,
      readMember_of_reads hfirst account (endsNumber_cons (.inr (.inr rfl)))]
    rfl
  | cons hnext _ ih =>
    obtain ⟨fuel, rfl⟩ := Nat.exists_eq_add_of_lt hfuel
    rw [List.map_cons, List.map_cons, ofChars_separated_append, readMembersFrom,
      readKey_memberText hfirst]
    simp only [mapError_ok, bind, Except.bind,
      readMember_of_reads hfirst account (endsNumber_cons (.inl rfl)),
      afterMember_next (opens_separated (opens_memberText hnext) _ _)]
    exact ih hnext (by rw [List.length_cons]; omega) _

/-- **An object is read from its members, each of which is put into its place.** -/
theorem readMembers_separated {texts : List (List Char × List Char)} {ms : List (String × Json)}
    (h : List.Forall₂ (ReadsMember value) texts ms) (rest : Bytes) :
    readMembers id (readMember value) [] (ofChars (separated (texts.map memberText)) ++ 0x7d :: rest) =
      .ok (Members.ofList ms, rest) := by
  cases h with
  | nil => rfl
  | @cons text m texts ms hfirst hothers =>
    obtain ⟨b, bytes, hbytes, hblank, -, hclose⟩ :=
      opens_separated (opens_memberText hfirst) (texts.map memberText) (0x7d :: rest)
    have hlength := length_lt_length_separated (memberText text) (texts.map memberText) 0x7d rest
    rw [List.length_map] at hlength
    have hread := readMembersFrom_separated hfirst hothers hlength [] rest
    rw [List.map_cons] at hread ⊢
    rw [hbytes] at hread ⊢
    rw [readMembers, skipBlank_cons hblank]
    simp only [if_neg hclose]
    exact hread

/-! ### Values -/

theorem readValue_of_readScalar {depth : Nat} {text : Bytes} {v : Json}
    (h : readScalar text = .ok (v, rest)) : readValue depth text = .ok (v, rest) := by
  obtain ⟨b, bytes, rfl, hblank, hbracket, hbrace, -⟩ := exists_first_of_readScalar h
  have hb : ¬ (b :: bytes).head? = some 0x5b := fun hhead => hbracket (Option.some.inj hhead)
  have hc : ¬ (b :: bytes).head? = some 0x7b := fun hhead => hbrace (Option.some.inj hhead)
  cases depth with
  | zero =>
    simpa only [readValue, skipBlank_cons hblank, hb, hc, decide_false, Bool.or_self,
      Bool.false_eq_true, if_false] using h
  | succ depth => simpa only [readValue, skipBlank_cons hblank, hb, hc, if_false] using h

theorem readValue_array {depth : Nat} {text : Bytes} {items : List Json}
    (h : readItems id (readValue depth) text = .ok (items, rest)) :
    readValue (depth + 1) (0x5b :: text) = .ok (.array items, rest) := by
  rw [readValue, skipBlank_cons (by decide)]
  simp only [List.head?_cons, if_true, List.drop_succ_cons, List.drop_zero, h]
  rfl

theorem readValue_object {depth : Nat} {text : Bytes} {members : Members}
    (h : readMembers id (readMember (readValue depth)) [] text = .ok (members, rest)) :
    readValue (depth + 1) (0x7b :: text) = .ok (.object members, rest) := by
  rw [readValue, skipBlank_cons (by decide)]
  simp only [List.head?_cons, if_true, List.drop_succ_cons, List.drop_zero, h]
  rfl

/-- A printer only changes the order of members, as long as their keys differ. -/
def Style.Permutes (style : Style) : Prop :=
  ∀ texts : List (List Char × List Char), (texts.map Prod.fst).Nodup →
    (style.arrange texts).Perm texts

variable {style : Style}

theorem itemChars_eq_map (items : List Json) : itemChars style items = items.map (chars style) := by
  induction items with
  | nil => rfl
  | cons v rest ih => rw [itemChars, ih, List.map_cons]

theorem memberChars_eq_map (members : Members) :
    memberChars style members = members.map fun m => (quoted m.1, chars style m.2) := by
  induction members with
  | nil => rfl
  | cons m rest ih => rw [memberChars, ih, List.map_cons]

theorem depthItems_le_iff {items : List Json} {depth : Nat} :
    depthItems items ≤ depth ↔ ∀ v ∈ items, v.depth ≤ depth := by
  induction items with
  | nil => simp [depthItems]
  | cons v rest ih => simp [depthItems, ih]

theorem depthMembers_le_iff {members : Members} {depth : Nat} :
    depthMembers members ≤ depth ↔ ∀ m ∈ members, m.2.depth ≤ depth := by
  induction members with
  | nil => simp [depthMembers]
  | cons m rest ih => simp [depthMembers, ih]

/-- A value that nests nothing is read as a scalar. -/
theorem reads_readScalar (style : Style) {v : Json} (hfree : v.FloatFree) (hv : v.WellFormed)
    (hdepth : v.depth = 0) : Reads readScalar (chars style v) v := by
  intro rest hrest
  cases hfree with
  | null => exact readScalar_null rest
  | bool b => exact readScalar_bool style b rest
  | integer n => exact readScalar_integer hv hrest
  | string s => exact readScalar_string s rest
  | array => exact absurd hdepth (by simp [depth])
  | object => exact absurd hdepth (by simp [depth])

theorem opens_chars (style : Style) {v : Json} (hfree : v.FloatFree) (hv : v.WellFormed) :
    Opens (ofChars (chars style v)) := by
  by_cases hdepth : v.depth = 0
  · have hread := reads_readScalar style hfree hv hdepth [] (by simp [EndsNumber])
    obtain ⟨b, bytes, hbytes, hblank, -, -, hclose⟩ := exists_first_of_readScalar hread
    exact ⟨b, bytes, (List.append_nil _).symm.trans hbytes, hblank, hclose⟩
  · cases hfree with
    | null | bool | integer | string => exact absurd rfl hdepth
    | array =>
      rw [chars, ofChars_cons_of_ascii (by decide)]
      exact ⟨0x5b, _, rfl, by decide⟩
    | object =>
      rw [chars, Style.objectChars, ofChars_cons_of_ascii (by decide)]
      exact ⟨0x7b, _, rfl, by decide⟩

/-- **A printed value without doubles is read back**, if the reader may go as deep as the value nests. -/
theorem reads_readValue (hstyle : style.Permutes) {depth : Nat} {v : Json} (hfree : v.FloatFree)
    (hv : v.WellFormed) (hdepth : v.depth ≤ depth) : Reads (readValue depth) (chars style v) v := by
  induction depth generalizing v with
  | zero =>
    intro rest hrest
    exact readValue_of_readScalar (reads_readScalar style hfree hv (Nat.le_zero.1 hdepth) rest hrest)
  | succ depth ih =>
    intro rest hrest
    cases hfree with
    | null | bool | integer | string =>
      exact readValue_of_readScalar (reads_readScalar style (by constructor) hv rfl rest hrest)
    | @array items h =>
      have hitems := depthItems_le_iff.1 (Nat.le_of_succ_le_succ hdepth)
      have hreads : List.Forall₂ (Reads (readValue depth)) (items.map (chars style)) items :=
        List.forall₂_map_left_iff.2 <| List.forall₂_same.2 fun v hmem =>
          ih (h v hmem) (hv.of_mem hmem) (hitems v hmem)
      have hopens : ∀ t ∈ items.map (chars style), Opens (ofChars t) :=
        List.forall_mem_map.2 fun v hmem => opens_chars style (h v hmem) (hv.of_mem hmem)
      rw [chars, itemChars_eq_map, ofChars_cons_of_ascii (by decide), ofChars_append,
        List.cons_append, List.append_assoc]
      exact readValue_array (readItems_separated hreads hopens rest)
    | @object members h =>
      have hmembers := depthMembers_le_iff.1 (Nat.le_of_succ_le_succ hdepth)
      have hreads : List.Forall₂ (ReadsMember (readValue depth)) (memberChars style members)
          members := by
        rw [memberChars_eq_map]
        refine List.forall₂_map_left_iff.2 <| List.forall₂_same.2 fun m hmem => ⟨rfl, ?_⟩
        exact ih (h m hmem) (hv.of_mem_members hmem) (hmembers m hmem)
      have hnodup : ((memberChars style members).map Prod.fst).Nodup := by
        have hkeys : ((Members.keys members).map quoted).Nodup :=
          List.Nodup.map quoted_injective hv.sorted.nodup_keys
        rw [Members.keys, List.map_map] at hkeys
        rwa [memberChars_eq_map, List.map_map]
      -- The members are read in the order in which they were printed, whatever it is.
      obtain ⟨ms, hms, hperm⟩ := List.perm_comp_forall₂ (hstyle _ hnodup) hreads
      have hread := readMembers_separated hms rest
      rw [Members.ofList_eq_of_perm hv.sorted hperm] at hread
      rw [chars, Style.objectChars, ofChars_cons_of_ascii (by decide), ofChars_append,
        List.cons_append, List.append_assoc]
      exact readValue_object hread

/-- **A printed value without doubles is the document of that value**, unless it nests too deep. -/
theorem parse_chars (hstyle : style.Permutes) {v : Json} (hfree : v.FloatFree) (hv : v.WellFormed)
    (hdepth : v.depth ≤ nestingLimit) : parse (ofChars (chars style v)) = .ok v := by
  have hread := reads_readValue hstyle hfree hv hdepth [] (by simp [EndsNumber])
  rw [List.append_nil] at hread
  rw [parse, hread]
  rfl

/-- Values without doubles that are printed alike are equal, however deep they nest. -/
theorem eq_of_chars_eq (hstyle : style.Permutes) {v w : Json} (hfreev : v.FloatFree)
    (hfreew : w.FloatFree) (hv : v.WellFormed) (hw : w.WellFormed)
    (h : chars style v = chars style w) : v = w := by
  have hreadv := reads_readValue hstyle hfreev hv (Nat.le_max_left v.depth w.depth) []
    (by simp [EndsNumber])
  have hreadw := reads_readValue hstyle hfreew hw (Nat.le_max_right v.depth w.depth) []
    (by simp [EndsNumber])
  rw [h, hreadw] at hreadv
  exact (Prod.mk.inj (Except.ok.inj hreadv)).1.symm

end ControlPlane.Json
