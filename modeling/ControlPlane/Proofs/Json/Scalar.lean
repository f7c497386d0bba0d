import ControlPlane.Json.Printer
import ControlPlane.Json.Reader
import ControlPlane.Proofs.Sequencing
import ControlPlane.Proofs.Text.Utf8
import Mathlib.Tactic.IntervalCases

/-!
# Printed scalars are read back

The reader takes a printed string, integer or word for the value that was printed, and stops right
behind it. Behind an integer this needs a text that does not go on with the number.

## Main definitions

* `Json.EndsNumber` : a text that does not go on with a number.

## Main statements

* `Json.readString_escaped` : a string between its quotes.
* `Json.readNumber_toDigits` : an integer.
* `Json.readScalar_null`, `Json.readScalar_bool`, `Json.readScalar_integer`, `Json.readScalar_string` :
  the scalars from their first byte on.
-/

namespace ControlPlane.Json

open Bytes (ofChars ofChars_nil ofChars_cons ofChars_append ofChars_cons_of_ascii)

variable {fuel : Nat} {tail rest content : Bytes}

/-! ### Strings -/

/-- Bytes that need no escape are taken as they stand. -/
theorem readStringBytes_plain {bytes : Bytes} (h : ∀ b ∈ bytes, b ≠ 0x22 ∧ b ≠ 0x5c ∧ 0x20 ≤ b)
    (htail : readStringBytes fuel tail = .ok (content, rest)) :
    readStringBytes (bytes.length + fuel) (bytes ++ tail) = .ok (bytes ++ content, rest) := by
  induction bytes with
  | nil => simpa using htail
  | cons b bytes ih =>
    obtain ⟨⟨hquote, hbackslash, hcontrol⟩, hbytes⟩ := List.forall_mem_cons.1 h
    rw [List.length_cons, Nat.add_right_comm, List.cons_append, readStringBytes, if_neg hquote,
      if_neg hbackslash, if_neg (UInt8.not_lt.2 hcontrol), ih hbytes]
    rfl

/-- An escape is taken for what it stands for. -/
theorem readStringBytes_escape {escape meant : Bytes}
    (hescape : readEscape (escape ++ tail) = .ok (meant, tail))
    (htail : readStringBytes fuel tail = .ok (content, rest)) :
    readStringBytes (fuel + 1) (0x5c :: (escape ++ tail)) = .ok (meant ++ content, rest) := by
  rw [readStringBytes, if_neg (by decide), if_pos rfl, hescape]
  simp only [bind, Except.bind, htail]
  rfl

theorem hexValue?_digitChar {n : Nat} (h : n < 16) :
    hexValue? (UInt8.ofNat (Nat.digitChar n).toNat) = some n := by
  interval_cases n <;> rfl

theorem toNat_digitChar_lt {n : Nat} (h : n < 16) : (Nat.digitChar n).toNat < 0x80 := by
  interval_cases n <;> decide

/-- A code unit that is no half of a pair is a code point. -/
theorem readCodePoint_of_lt {text : Bytes} {unit : Nat}
    (h : readHexEscape text = .ok (unit, rest)) (hunit : unit < 0xd800) :
    readCodePoint text = .ok (unit, rest) := by
  have htrailing : isTrailingSurrogate unit = false := by simp [isTrailingSurrogate]; omega
  have hleading : isLeadingSurrogate unit = false := by simp [isLeadingSurrogate]; omega
  rw [readCodePoint, h]
  simp [bind, Except.bind, pure, Except.pure, htrailing, hleading]

/-- A control character is read from its four digits. -/
theorem readEscape_control {c : Char} (hc : c.toNat < 0x20) :
    readEscape (ofChars ['u', '0', '0', Nat.digitChar (c.toNat / 16),
      Nat.digitChar (c.toNat % 16)] ++ tail) = .ok (String.utf8EncodeChar c, tail) := by
  have hhigh : c.toNat / 16 < 16 := by omega
  have hlow : c.toNat % 16 < 16 := by omega
  have hzero : hexValue? 0x30 = some 0 := rfl
  have hdigits : readHexEscape (0x30 :: 0x30 ::
      UInt8.ofNat (Nat.digitChar (c.toNat / 16)).toNat ::
      UInt8.ofNat (Nat.digitChar (c.toNat % 16)).toNat :: tail) = .ok (c.toNat, tail) := by
    simp only [readHexEscape, hzero, hexValue?_digitChar hhigh, hexValue?_digitChar hlow]
    congr 2
    omega
  have hmeant : Bytes.ofText (Char.ofNat c.toNat).toString = String.utf8EncodeChar c := by
    rw [Bytes.ofText_eq, Char.ofNat_toNat, Char.toString_eq_singleton, String.toList_singleton]
    exact List.append_nil _
  simp only [ofChars_cons_of_ascii, Char.reduceToNat, Nat.reduceLT, toNat_digitChar_lt hhigh,
    toNat_digitChar_lt hlow, ofChars_nil]
  change readEscape (0x75 :: 0x30 :: 0x30 :: _ :: _ :: tail) = _
  rw [readEscape, if_pos rfl, readCodePoint_of_lt hdigits (by omega)]
  exact congrArg (fun bytes => Except.ok (bytes, tail)) hmeant

/-- A character stands for itself, or for itself behind a backslash. -/
theorem escaped_cases (c : Char) :
    escaped c = [c] ∧ c ≠ '"' ∧ c ≠ '\\' ∧ 0x20 ≤ c.toNat ∨
      ∃ escape, escaped c = '\\' :: escape ∧
        ∀ tail, readEscape (ofChars escape ++ tail) = .ok (String.utf8EncodeChar c, tail) := by
  have hletter {meant letter : Char} (h : c = meant) (hread : ∀ tail,
      readEscape (ofChars [letter] ++ tail) = .ok (String.utf8EncodeChar meant, tail)) :
      ∃ escape, ['\\', letter] = '\\' :: escape ∧
        ∀ tail, readEscape (ofChars escape ++ tail) = .ok (String.utf8EncodeChar c, tail) :=
    ⟨[letter], rfl, h ▸ hread⟩
  unfold escaped
  split_ifs with hquote hbackslash hb ht hn hf hr hcontrol
  · exact .inr (hletter hquote fun _ => rfl)
  · exact .inr (hletter hbackslash fun _ => rfl)
  · exact .inr (hletter hb fun _ => rfl)
  · exact .inr (hletter ht fun _ => rfl)
  · exact .inr (hletter hn fun _ => rfl)
  · exact .inr (hletter hf fun _ => rfl)
  · exact .inr (hletter hr fun _ => rfl)
  · exact .inr ⟨_, rfl, fun _ => readEscape_control hcontrol⟩
  · exact .inl ⟨rfl, hquote, hbackslash, Nat.not_lt.1 hcontrol⟩

/-- The bytes of a character that stands for itself need no escape. -/
theorem plain_of_mem {c : Char} (hquote : c ≠ '"') (hbackslash : c ≠ '\\') (hcontrol : 0x20 ≤ c.toNat)
    {b : UInt8} (hb : b ∈ String.utf8EncodeChar c) : b ≠ 0x22 ∧ b ≠ 0x5c ∧ 0x20 ≤ b := by
  by_cases hc : c.toNat < 0x80
  · rw [Bytes.utf8EncodeChar_of_ascii hc, List.mem_singleton] at hb
    have hbyte : b.toNat = c.toNat := by rw [hb, UInt8.toNat_ofNat', Nat.mod_eq_of_lt (by omega)]
    refine ⟨?_, ?_, UInt8.le_iff_toNat_le.2 (hbyte ▸ hcontrol)⟩
    · rintro rfl
      exact hquote (Char.toNat_inj.1 hbyte.symm)
    · rintro rfl
      exact hbackslash (Char.toNat_inj.1 hbyte.symm)
  · have hle := UInt8.le_iff_toNat_le.1 (Bytes.ascii_le_of_mem (Nat.not_lt.1 hc) hb)
    refine ⟨?_, ?_, UInt8.le_iff_toNat_le.2 (Nat.le_trans (by decide) hle)⟩
    · rintro rfl
      exact absurd hle (by decide)
    · rintro rfl
      exact absurd hle (by decide)

/-- What stands between quotes is read, with the bytes behind the closing quote. -/
theorem readStringBytes_escaped (cs : List Char) :
    (ofChars (cs.flatMap escaped)).length < fuel →
      readStringBytes fuel (ofChars (cs.flatMap escaped) ++ 0x22 :: rest) = .ok (ofChars cs, rest) := by
  induction cs generalizing fuel with
  | nil =>
    intro hfuel
    obtain ⟨fuel, rfl⟩ := Nat.exists_eq_add_of_lt hfuel
    rfl
  | cons c cs ih =>
    rw [List.flatMap_cons, ofChars_append, List.length_append, List.append_assoc, ofChars_cons c cs]
    intro hfuel
    rcases escaped_cases c with ⟨hplain, hquote, hbackslash, hcontrol⟩ | ⟨escape, heq, hescape⟩
    · have hbytes : ofChars (escaped c) = String.utf8EncodeChar c := by
        rw [hplain, ofChars_cons, ofChars_nil, List.append_nil]
      rw [hbytes] at hfuel ⊢
      obtain ⟨fuel, rfl⟩ := Nat.exists_eq_add_of_le (Nat.le_of_lt (Nat.lt_of_le_of_lt
        (Nat.le_add_right _ _) hfuel))
      exact readStringBytes_plain (fun b hb => plain_of_mem hquote hbackslash hcontrol hb)
        (ih (by omega))
    · have hbytes : ofChars (escaped c) = 0x5c :: ofChars escape := by
        rw [heq, ofChars_cons_of_ascii (by decide)]
        rfl
      rw [hbytes, List.length_cons] at hfuel
      rw [hbytes]
      obtain ⟨fuel, rfl⟩ := Nat.exists_eq_add_of_lt hfuel
      exact readStringBytes_escape (hescape _) (ih (by omega))

/-- **A string between its quotes is read back.** -/
theorem readString_escaped (s : String) (rest : Bytes) :
    readString (ofChars (s.toList.flatMap escaped) ++ 0x22 :: rest) = .ok (s, rest) := by
  rw [readString, readStringBytes_escaped _ (by rw [List.length_append]; omega)]
  simp only [bind, Except.bind, Bytes.toText?_ofChars]
  rfl

theorem ofChars_quoted_append (s : String) (rest : Bytes) :
    ofChars (quoted s) ++ rest = 0x22 :: (ofChars (s.toList.flatMap escaped) ++ 0x22 :: rest) := by
  rw [quoted, ofChars_cons_of_ascii (by decide), ofChars_append, ofChars_cons_of_ascii (by decide),
    List.cons_append, List.append_assoc]
  rfl

/-- Different strings are printed differently. -/
theorem quoted_injective : Function.Injective quoted := by
  intro s t h
  have hbytes : ofChars (quoted s) ++ [] = ofChars (quoted t) ++ [] := by rw [h]
  rw [ofChars_quoted_append, ofChars_quoted_append] at hbytes
  have hread := readString_escaped s []
  rw [(List.cons.inj hbytes).2, readString_escaped] at hread
  exact (Prod.mk.inj (Except.ok.inj hread)).1.symm

/-! ### Integers -/

/-- A text that does not go on with a number. -/
def EndsNumber (text : Bytes) : Prop :=
  ∀ b ∈ text.head?, isDigit b = false ∧ b ≠ 0x2e ∧ b ≠ 0x65 ∧ b ≠ 0x45

/-- The byte of a decimal digit. -/
theorem isDigit_of_isDigit {c : Char} (h : c.isDigit = true) :
    c.toNat < 0x80 ∧ isDigit (UInt8.ofNat c.toNat) = true ∧
      (UInt8.ofNat c.toNat).toNat = c.toNat := by
  have hc : 48 ≤ c.toNat ∧ c.toNat ≤ 57 := by
    simpa [Char.isDigit, UInt32.le_iff_toNat_le] using h
  have hbyte : (UInt8.ofNat c.toNat).toNat = c.toNat := by
    rw [UInt8.toNat_ofNat', Nat.mod_eq_of_lt (by omega)]
  refine ⟨by omega, ?_, hbyte⟩
  simp only [isDigit, Bool.and_eq_true, decide_eq_true_eq, UInt8.le_iff_toNat_le, hbyte]
  exact hc

theorem isDigit_of_mem_ofChars {cs : List Char} (h : ∀ c ∈ cs, c.isDigit = true) :
    ∀ b ∈ ofChars cs, isDigit b = true := by
  intro b hb
  obtain ⟨c, hc, hb⟩ := List.mem_flatMap.1 hb
  obtain ⟨hascii, hdigit, -⟩ := isDigit_of_isDigit (h c hc)
  rw [Bytes.utf8EncodeChar_of_ascii hascii, List.mem_singleton] at hb
  exact hb ▸ hdigit

/-- Digits are worth as many bytes as characters. -/
theorem digitsValue_ofChars {cs : List Char} (h : ∀ c ∈ cs, c.isDigit = true) (start : Nat) :
    digitsValue start (ofChars cs) = Nat.ofDigitChars 10 cs start := by
  induction cs generalizing start with
  | nil => rfl
  | cons c cs ih =>
    obtain ⟨hc, hcs⟩ := List.forall_mem_cons.1 h
    obtain ⟨hascii, -, hbyte⟩ := isDigit_of_isDigit hc
    rw [ofChars_cons_of_ascii hascii, Nat.ofDigitChars_cons, ← ih hcs, digitsValue, List.foldl_cons,
      hbyte]
    rfl

theorem isDigit_of_mem_toDigits {n : Nat} : ∀ c ∈ Nat.toDigits 10 n, c.isDigit = true :=
  fun _ hc => Nat.isDigit_of_mem_toDigits (by decide) (by decide) hc

/-- A number other than zero does not start with a zero. -/
theorem toDigits_eq_cons {n : Nat} (hn : n ≠ 0) :
    ∃ c cs, Nat.toDigits 10 n = c :: cs ∧ c ≠ '0' := by
  induction n using Nat.strongRecOn with
  | ind n ih =>
    rw [Nat.toDigits_eq_if (by decide)]
    split_ifs with hlt
    · refine ⟨_, _, rfl, ?_⟩
      interval_cases n <;> simp_all [Nat.digitChar]
    · obtain ⟨c, cs, hcs, hc⟩ := ih (n / 10) (by omega) (by omega)
      exact ⟨c, cs ++ [Nat.digitChar (n % 10)], by rw [hcs, List.cons_append], hc⟩

theorem EndsNumber.takeWhile_append (h : EndsNumber rest) {digits : Bytes}
    (hdigits : ∀ b ∈ digits, isDigit b = true) :
    (digits ++ rest).takeWhile isDigit = digits ∧ (digits ++ rest).dropWhile isDigit = rest := by
  have hrest : rest.takeWhile isDigit = [] ∧ rest.dropWhile isDigit = rest := by
    cases rest with
    | nil => exact ⟨rfl, rfl⟩
    | cons b rest =>
      have hb : ¬ isDigit b = true := by simp [(h b rfl).1]
      exact ⟨List.takeWhile_cons_of_neg hb, List.dropWhile_cons_of_neg hb⟩
  rw [List.takeWhile_append_of_pos hdigits, List.dropWhile_append_of_pos hdigits, hrest.1, hrest.2,
    List.append_nil]
  exact ⟨rfl, rfl⟩

theorem readWhole_toDigits (n : Nat) (h : EndsNumber rest) :
    readWhole (ofChars (Nat.toDigits 10 n) ++ rest) = .ok (ofChars (Nat.toDigits 10 n), rest) := by
  by_cases hn : n = 0
  · subst hn
    have hrest : rest.head?.any isDigit = false := by
      cases rest with
      | nil => rfl
      | cons b rest => exact (h b rfl).1
    change readWhole (0x30 :: rest) = _
    rw [readWhole, if_pos rfl, hrest]
    rfl
  · obtain ⟨c, cs, hcs, hc⟩ := toDigits_eq_cons hn
    obtain ⟨hdigit, hdigits⟩ := List.forall_mem_cons.1 (hcs ▸ isDigit_of_mem_toDigits (n := n))
    obtain ⟨hascii, hbyte, hvalue⟩ := isDigit_of_isDigit hdigit
    have hzero : ¬ UInt8.ofNat c.toNat = 0x30 := fun heq =>
      hc (Char.toNat_inj.1 (hvalue.symm.trans (congrArg UInt8.toNat heq)))
    obtain ⟨htake, hdrop⟩ := h.takeWhile_append (isDigit_of_mem_ofChars hdigits)
    rw [hcs, ofChars_cons_of_ascii hascii, List.cons_append, readWhole, if_neg hzero, if_pos hbyte,
      htake, hdrop]

theorem readFraction_of_endsNumber (h : EndsNumber rest) : readFraction rest = .ok (none, rest) := by
  rw [readFraction, if_neg]
  intro hhead
  exact (h _ hhead).2.1 rfl

theorem readExponent_of_endsNumber (isZero : Bool) (h : EndsNumber rest) :
    readExponent isZero rest = .ok (none, rest) := by
  rw [readExponent, if_neg]
  simp only [Bool.or_eq_true, decide_eq_true_eq, not_or]
  exact ⟨fun hhead => (h _ hhead).2.2.1 rfl, fun hhead => (h _ hhead).2.2.2 rfl⟩

/-- **Digits that nothing continues are read as the integer that they write**, if it can be held. -/
theorem readNumber_toDigits {negative : Bool} {n : Nat} {k : Int} (h : EndsNumber rest)
    (hk : heldInteger? negative n = some k) :
    readNumber negative (ofChars (Nat.toDigits 10 n) ++ rest) = .ok (.integer k, rest) := by
  have hdigits : digitsValue (digitsValue 0 (ofChars (Nat.toDigits 10 n))) [] = n := by
    rw [digitsValue_ofChars isDigit_of_mem_toDigits, Nat.ofDigitChars_ten_toDigits]
    rfl
  rw [readNumber, readWhole_toDigits n h]
  simp only [bind, Except.bind, readFraction_of_endsNumber h, readExponent_of_endsNumber _ h,
    Option.getD_none, hdigits, hk]
  rfl

/-! ### Scalars from their first byte on -/

/-- The digits of a number start with the byte of a digit. -/
theorem exists_ofChars_toDigits (n : Nat) :
    ∃ b bytes, ofChars (Nat.toDigits 10 n) = b :: bytes ∧ isDigit b = true := by
  obtain ⟨c, cs, hcs⟩ := List.exists_cons_of_ne_nil (Nat.toDigits_ne_nil (n := n) (b := 10))
  obtain ⟨hascii, hbyte, -⟩ := isDigit_of_isDigit (isDigit_of_mem_toDigits (n := n) c (by simp [hcs]))
  exact ⟨_, _, by rw [hcs, ofChars_cons_of_ascii hascii], hbyte⟩

theorem readScalar_of_isDigit {b : UInt8} (h : isDigit b = true) :
    readScalar (b :: rest) = readNumber false (b :: rest) := by
  have hne : ∀ letter : UInt8, isDigit letter = false → b ≠ letter := by
    rintro letter hletter rfl
    exact absurd (h.symm.trans hletter) (by decide)
  rw [readScalar, if_neg (hne 0x6e (by decide)), if_neg (hne 0x74 (by decide)),
    if_neg (hne 0x66 (by decide)), if_neg (hne 0x2d (by decide)), if_pos h]

theorem readScalar_integer {n : Int} (hn : (Json.integer n).WellFormed) (h : EndsNumber rest) :
    readScalar (ofChars (integerChars n) ++ rest) = .ok (.integer n, rest) := by
  rw [WellFormed] at hn
  by_cases hneg : n < 0
  · have habs : -(n.natAbs : Int) = n := by omega
    have hheld : heldInteger? true n.natAbs = some n := by
      rw [heldInteger?, if_pos rfl, habs, if_pos ⟨by omega, hn.1⟩]
    rw [integerChars, if_pos hneg, ofChars_cons_of_ascii (by decide)]
    change readScalar (0x2d :: (ofChars (Nat.toDigits 10 n.natAbs) ++ rest)) = _
    rw [readScalar, if_neg (by decide), if_neg (by decide), if_neg (by decide), if_pos rfl]
    exact readNumber_toDigits h hheld
  · have habs : (n.natAbs : Int) = n := by omega
    have hheld : heldInteger? false n.natAbs = some n := by
      rw [heldInteger?, if_neg (by decide), habs, if_pos hn.2]
    obtain ⟨b, bytes, hbytes, hb⟩ := exists_ofChars_toDigits n.natAbs
    have hread := readNumber_toDigits h hheld
    rw [integerChars, if_neg hneg]
    rw [hbytes, List.cons_append] at hread ⊢
    rw [readScalar_of_isDigit hb, hread]

theorem readScalar_string (s : String) (rest : Bytes) :
    readScalar (ofChars (quoted s) ++ rest) = .ok (.string s, rest) := by
  rw [ofChars_quoted_append, readScalar, if_neg (by decide), if_neg (by decide), if_neg (by decide),
    if_neg (by decide), if_neg (by decide), if_pos rfl, readString_escaped]
  rfl

theorem readScalar_null (rest : Bytes) :
    readScalar (ofChars ['n', 'u', 'l', 'l'] ++ rest) = .ok (.null, rest) := rfl

theorem readScalar_bool (style : Style) (b : Bool) (rest : Bytes) :
    readScalar (ofChars (chars style (.bool b)) ++ rest) = .ok (.bool b, rest) := by
  cases b <;> rw [chars] <;> rfl

/-- What is read as a scalar starts with no blank and no bracket. -/
theorem exists_first_of_readScalar {text : Bytes} {v : Json}
    (h : readScalar text = .ok (v, rest)) : ∃ b bytes, text = b :: bytes ∧
      isBlankByte b = false ∧ b ≠ 0x5b ∧ b ≠ 0x7b ∧ b ≠ 0x5d ∧ b ≠ 0x7d := by
  cases text with
  | nil => exact absurd h (by simp [readScalar])
  | cons b bytes =>
    have hne : ∀ other : UInt8, readScalar (other :: bytes) =
        .error (.onFirst .expectedValue (other :: bytes)) → b ≠ other := by
      rintro other hother rfl
      exact absurd (hother.symm.trans h) (by simp)
    have hblank : isBlankByte b = false := by
      simp [isBlankByte, hne 0x20 rfl, hne 0x0a rfl, hne 0x0d rfl, hne 0x09 rfl]
    exact ⟨b, bytes, rfl, hblank, hne 0x5b rfl, hne 0x7b rfl, hne 0x5d rfl, hne 0x7d rfl⟩

end ControlPlane.Json
