import ControlPlane.Text.Utf8

/-!
# The octets of a text

The octets of a text are those of its characters, one after the other, and they are read as that text
again. A character below U+0080 is one octet, its number; every octet of another character is at least
`0x80`, so that it is never taken for such a character.

## Main definitions

* `Bytes.ofChars` : the octets of characters.

## Main statements

* `Bytes.ofText_eq`, `Bytes.toText?_ofChars` : a text, its octets, and the text again.
* `Bytes.utf8EncodeChar_of_ascii`, `Bytes.ascii_le_of_mem` : the octets of one character.
-/

namespace ControlPlane.Bytes

/-- The octets of characters. -/
def ofChars (cs : List Char) : Bytes := cs.flatMap String.utf8EncodeChar

@[simp] theorem ofChars_nil : ofChars [] = [] := rfl

theorem ofChars_cons (c : Char) (cs : List Char) :
    ofChars (c :: cs) = String.utf8EncodeChar c ++ ofChars cs := List.flatMap_cons

@[simp] theorem ofChars_append (cs ds : List Char) : ofChars (cs ++ ds) = ofChars cs ++ ofChars ds :=
  List.flatMap_append

/-! ### Texts -/

private theorem toList_loop (bytes : ByteArray) (i : Nat) (passed : List UInt8) :
    ByteArray.toList.loop bytes i passed = passed.reverse ++ bytes.data.toList.drop i := by
  fun_induction ByteArray.toList.loop bytes i passed with
  | case1 i passed h ih =>
    have hi : i < bytes.data.toList.length := by simpa using h
    rw [ih, List.drop_eq_getElem_cons hi]
    simp [ByteArray.get!, h]
  | case2 i passed h =>
    rw [List.drop_eq_nil_of_le (by simpa using Nat.le_of_not_lt h)]
    simp

private theorem toList_toByteArray (bytes : List UInt8) : bytes.toByteArray.toList = bytes := by
  rw [ByteArray.toList, toList_loop, List.reverse_nil, List.nil_append, List.drop_zero,
    List.toList_data_toByteArray]

private theorem toByteArray_ofChars (s : String) : (ofChars s.toList).toByteArray = s.toUTF8 :=
  String.utf8Encode_toList

/-- The octets of a text are those of its characters. -/
theorem ofText_eq (s : String) : ofText s = ofChars s.toList := by
  rw [ofText, ← toByteArray_ofChars, toList_toByteArray]

theorem ofText_ofList (cs : List Char) : ofText (String.ofList cs) = ofChars cs := by
  rw [ofText_eq, String.toList_ofList]

/-- **The octets of a text are read as that text.** -/
theorem toText?_ofChars (s : String) : toText? (ofChars s.toList) = some s := by
  rw [toText?, toByteArray_ofChars, String.fromUTF8?]
  exact dif_pos s.isValidUTF8

/-- Texts of the same octets are equal. -/
theorem ofText_inj {s t : String} : ofText s = ofText t ↔ s = t := by
  refine ⟨fun h => ?_, congrArg ofText⟩
  rw [ofText_eq, ofText_eq] at h
  rw [← Option.some.injEq, ← toText?_ofChars s, ← toText?_ofChars t, h]

/-! ### Characters -/

/-- A character below U+0080 is one octet. -/
theorem utf8EncodeChar_of_ascii {c : Char} (h : c.toNat < 0x80) :
    String.utf8EncodeChar c = [UInt8.ofNat c.toNat] := by
  rw [String.utf8EncodeChar]
  exact if_pos (Nat.le_of_lt_succ h)

theorem ofChars_cons_of_ascii {c : Char} (h : c.toNat < 0x80) (cs : List Char) :
    ofChars (c :: cs) = UInt8.ofNat c.toNat :: ofChars cs := by
  rw [ofChars_cons, utf8EncodeChar_of_ascii h, List.singleton_append]

/-- An octet that holds bits of a number below a mark. -/
theorem toNat_marked {low n mark : Nat} (hn : 0 < n) (htop : n + mark ≤ 0x100) :
    (UInt8.ofNat (low % n + mark)).toNat = low % n + mark := by
  have hlow := Nat.mod_lt low hn
  rw [UInt8.toNat_ofNat', Nat.mod_eq_of_lt (by omega)]

/-- No octet of another character is one of a character below U+0080. -/
theorem ascii_le_of_mem {c : Char} (h : 0x80 ≤ c.toNat) {b : UInt8}
    (hb : b ∈ String.utf8EncodeChar c) : 0x80 ≤ b := by
  have hc : ¬ c.val.toNat ≤ 127 := Nat.not_le.2 h
  have hmarked (low n mark : Nat) (hn : 0 < n) (hmark : 0x80 ≤ mark) (htop : n + mark ≤ 0x100) :
      0x80 ≤ UInt8.ofNat (low % n + mark) := by
    rw [UInt8.le_iff_toNat_le, toNat_marked hn htop]
    exact Nat.le_trans hmark (Nat.le_add_left ..)
  rw [String.utf8EncodeChar, if_neg hc] at hb
  split at hb
  · simp only [List.mem_cons, List.not_mem_nil, or_false] at hb
    rcases hb with rfl | rfl <;> exact hmarked _ _ _ (by decide) (by decide) (by decide)
  · split at hb
    · simp only [List.mem_cons, List.not_mem_nil, or_false] at hb
      rcases hb with rfl | rfl | rfl <;> exact hmarked _ _ _ (by decide) (by decide) (by decide)
    · simp only [List.mem_cons, List.not_mem_nil, or_false] at hb
      rcases hb with rfl | rfl | rfl | rfl <;>
        exact hmarked _ _ _ (by decide) (by decide) (by decide)

end ControlPlane.Bytes
