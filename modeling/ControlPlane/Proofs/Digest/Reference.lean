import ControlPlane.Digest.Document
import Mathlib.Data.List.Basic
import Mathlib.Tactic.IntervalCases

/-!
# References by content

A reference is read digit by digit. The texts that are read are described here by their form: the
name of the hash and sixty-four hexadecimal digits in lower case.

## Main definitions

* `ContentDigest.IsHexDigit` : a hexadecimal digit in lower case.
* `ContentDigest.IsReference` : the form of references.

## Main statements

* `ContentDigest.ofReference_isOk_iff` : exactly the texts of this form refer to a digest.
* `ContentDigest.isReference_reference` : the reference to a digest has this form.
-/

namespace ControlPlane.ContentDigest

/-- A hexadecimal digit in lower case. -/
def IsHexDigit (c : Char) : Prop := '0' ≤ c ∧ c ≤ '9' ∨ 'a' ≤ c ∧ c ≤ 'f'

/-- The name of the hash, a colon, and sixty-four hexadecimal digits in lower case. -/
def IsReference (text : String) : Prop :=
  ∃ digits : List Char, digits.length = 64 ∧ (∀ c ∈ digits, IsHexDigit c) ∧
    text.toList = "sha256:".toList ++ digits

theorem exists_digitValue?_iff {c : Char} : (∃ n, digitValue? c = some n) ↔ IsHexDigit c := by
  unfold digitValue? IsHexDigit
  split
  · next h => simp [h]
  · next h =>
    split
    · next h' => simp [h']
    · next h' => simp [h, h']

theorem octets?_cons_cons {high low : Char} {rest : List Char} {octets : List UInt8} :
    octets? (high :: low :: rest) = some octets ↔ ∃ h l tail, digitValue? high = some h ∧
      digitValue? low = some l ∧ octets? rest = some tail ∧
      octets = UInt8.ofNat (16 * h + l) :: tail := by
  simp only [octets?, Option.bind_eq_bind, Option.bind_eq_some_iff, Option.pure_def,
    Option.some.injEq]
  constructor
  · rintro ⟨h, hh, l, hl, tail, ht, rfl⟩
    exact ⟨h, l, tail, hh, hl, ht, rfl⟩
  · rintro ⟨h, l, tail, hh, hl, ht, rfl⟩
    exact ⟨h, hh, l, hl, tail, ht, rfl⟩

/-- Each octet is read from two digits. -/
theorem exists_octets?_iff {count : Nat} : {text : List Char} →
    ((∃ octets, octets? text = some octets ∧ octets.length = count) ↔
      text.length = 2 * count ∧ ∀ c ∈ text, IsHexDigit c)
  | [] => by
    simp only [octets?, Option.some.injEq, exists_eq_left', List.length_nil]
    grind
  | [_] => by
    simp only [octets?, reduceCtorEq, false_and, exists_false, List.length_singleton, false_iff]
    omega
  | high :: low :: rest => by
    cases count with
    | zero => simp [octets?_cons_cons]
    | succ count =>
      have ih := @exists_octets?_iff count rest
      simp only [octets?_cons_cons, List.length_cons, List.forall_mem_cons, ← exists_digitValue?_iff]
      constructor
      · rintro ⟨_, ⟨h, l, tail, hh, hl, ht, rfl⟩, hlen⟩
        obtain ⟨hrest, hdigits⟩ := ih.1 ⟨tail, ht, by simpa using hlen⟩
        exact ⟨by omega, ⟨h, hh⟩, ⟨l, hl⟩, by simpa only [exists_digitValue?_iff] using hdigits⟩
      · rintro ⟨hlen, ⟨h, hh⟩, ⟨l, hl⟩, hdigits⟩
        obtain ⟨tail, ht, hcount⟩ :=
          ih.2 ⟨by omega, by simpa only [exists_digitValue?_iff] using hdigits⟩
        exact ⟨_, ⟨h, l, tail, hh, hl, ht, rfl⟩, by simp [hcount]⟩

theorem afterLead?_eq_some_iff {text rest : List Char} :
    afterLead? text = some rest ↔ text = "sha256:".toList ++ rest := by
  have hlead : leadChars = "sha256:".toList := rfl
  rw [afterLead?, ← hlead]
  constructor
  · intro h
    split at h
    · next hp =>
      obtain ⟨tail, rfl⟩ := List.isPrefixOf_iff_prefix.1 hp
      rw [List.drop_left] at h
      rw [Option.some.inj h]
    · exact absurd h (by simp)
  · rintro rfl
    rw [if_pos (List.isPrefixOf_iff_prefix.2 (List.prefix_append ..)), List.drop_left]

/-- **Exactly the texts of the form of references refer to a digest.** -/
theorem ofReference_isOk_iff {text : String} :
    (ofReference text).isOk = true ↔ IsReference text := by
  have hread : (ofReference text).isOk = true ↔
      ∃ octets, (afterLead? text.toList).bind octets? = some octets ∧ octets.length = 32 := by
    unfold ofReference
    split
    · next octets h =>
      split
      · next hs => simpa [h, Except.isOk, Except.toBool] using hs
      · next hs => simpa [h, Except.isOk, Except.toBool] using hs
    · next h => simp [h, Except.isOk, Except.toBool]
  rw [hread]
  simp only [Option.bind_eq_some_iff, afterLead?_eq_some_iff]
  constructor
  · rintro ⟨octets, ⟨digits, htext, hoctets⟩, hlen⟩
    obtain ⟨hcount, hdigits⟩ := exists_octets?_iff.1 ⟨octets, hoctets, hlen⟩
    exact ⟨digits, hcount, hdigits, htext⟩
  · rintro ⟨digits, hcount, hdigits, htext⟩
    obtain ⟨octets, hoctets, hlen⟩ := (@exists_octets?_iff 32 digits).2 ⟨hcount, hdigits⟩
    exact ⟨octets, ⟨digits, htext, hoctets⟩, hlen⟩

/-! ### The reference to a digest -/

theorem isHexDigit_digitChar {n : Nat} (h : n < 16) : IsHexDigit (Nat.digitChar n) := by
  unfold IsHexDigit
  interval_cases n <;> decide

theorem isHexDigit_of_mem_octetDigits {b : UInt8} {c : Char} (hc : c ∈ octetDigits b) :
    IsHexDigit c := by
  have hb : b.toNat < 256 := b.toNat_lt
  rcases List.mem_pair.1 hc with rfl | rfl
  · exact isHexDigit_digitChar (by omega)
  · exact isHexDigit_digitChar (by omega)

theorem length_digits (d : ContentDigest) : d.digits.length = 64 := by
  have hlength (octets : List UInt8) :
      (octets.flatMap octetDigits).length = 2 * octets.length := by
    induction octets with
    | nil => rfl
    | cons b rest ih =>
      rw [List.flatMap_cons, List.length_append, ih, List.length_cons]
      simp only [octetDigits, List.length_cons, List.length_nil]
      omega
  rw [digits, hlength, Vector.length_toList]

/-- **The reference to a digest has the form of references.** -/
theorem isReference_reference (d : ContentDigest) : IsReference d.reference := by
  refine ⟨d.digits, d.length_digits, fun c hc => ?_, ?_⟩
  · obtain ⟨b, -, hb⟩ := List.mem_flatMap.1 hc
    exact isHexDigit_of_mem_octetDigits hb
  · rw [reference, String.toList_ofList]
    rfl

end ControlPlane.ContentDigest
