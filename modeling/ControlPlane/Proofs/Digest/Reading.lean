import ControlPlane.Proofs.Digest.Reference
import ControlPlane.Proofs.Json.Scalar

/-!
# One reference for each digest

A digest is written in one way and read from that text only. Digits are written in lower case and two
for each octet, so a text that is read is the text that would be written for what was read.

The same digests are found on the octets of a text by a reader that takes digits of either case, once
capital letters have been set aside: the octets that are left to it are read only if they are those of
digits in lower case, whatever characters the text is made of.

## Main definitions

* `ContentDigest.pairs?` : octets from pairs of digits, under a reading of single digits.
* `ContentDigest.ofOctets?` : the digest that octets refer to, read without regard to case.

## Main statements

* `ContentDigest.pairs?_eq_some_iff` : pairs of digits are read as the octets they are written for.
* `ContentDigest.ofReference_eq_ok_iff`, `ContentDigest.ofOctets?_eq_some_iff` : what is read is what
  was written.
* `ContentDigest.ofReference_inverts_reference` : texts that are read and digests, one to one.
-/

namespace ControlPlane.ContentDigest

variable {text : String} {d : ContentDigest} {octets : List UInt8}

/-! ### Pairs of digits -/

/-- The octets of pairs of digits, under a reading of single digits. -/
def pairs? {α : Type} (value? : α → Option Nat) : List α → Option (List UInt8)
  | [] => some []
  | high :: low :: rest => do
    let h ← value? high
    let l ← value? low
    let tail ← pairs? value? rest
    return UInt8.ofNat (16 * h + l) :: tail
  | [_] => none

theorem octets?_eq_pairs? (text : List Char) : octets? text = pairs? digitValue? text := by
  fun_induction octets? text with
  | case1 => rfl
  | case2 high low rest ih => rw [pairs?, ih]
  | case3 => rfl

/-- **Pairs of digits are read as the octets that they are written for**, and nothing else is read, if
the reading of single digits takes the sixteen digits for their values and nothing else. -/
theorem pairs?_eq_some_iff {α : Type} {value? : α → Option Nat} {digit : Nat → α} :
    {text : List α} → {octets : List UInt8} →
    (∀ a ∈ text, ∀ n, value? a = some n ↔ n < 16 ∧ a = digit n) →
    (pairs? value? text = some octets ↔
      text = octets.flatMap fun b => [digit (b.toNat / 16), digit (b.toNat % 16)])
  | [], octets, _ => by
    cases octets <;> simp [pairs?]
  | [_], octets, _ => by
    cases octets <;> simp [pairs?]
  | high :: low :: rest, [], _ => by
    simp [pairs?, Option.bind_eq_some_iff]
  | high :: low :: rest, b :: octets, hvalue => by
    have ih : pairs? value? rest = some octets ↔ _ := pairs?_eq_some_iff
      fun a ha => hvalue a (List.mem_cons_of_mem _ (List.mem_cons_of_mem _ ha))
    have hhigh := hvalue high List.mem_cons_self
    have hlow := hvalue low (List.mem_cons_of_mem _ List.mem_cons_self)
    have hb : b.toNat < 256 := b.toNat_lt
    simp only [pairs?, Option.bind_eq_bind, Option.bind_eq_some_iff, Option.pure_def,
      Option.some.injEq, List.cons.injEq, List.flatMap_cons, List.cons_append, List.nil_append]
    constructor
    · rintro ⟨h, hh, l, hl, tail, htail, rfl, rfl⟩
      obtain ⟨hh16, rfl⟩ := (hhigh h).1 hh
      obtain ⟨hl16, rfl⟩ := (hlow l).1 hl
      have hoctet : (UInt8.ofNat (16 * h + l)).toNat = 16 * h + l := by
        rw [UInt8.toNat_ofNat', Nat.mod_eq_of_lt (by omega)]
      rw [hoctet, show (16 * h + l) / 16 = h by omega, show (16 * h + l) % 16 = l by omega]
      exact ⟨rfl, rfl, ih.1 htail⟩
    · rintro ⟨rfl, rfl, hrest⟩
      refine ⟨b.toNat / 16, (hhigh _).2 ⟨by omega, rfl⟩, b.toNat % 16,
        (hlow _).2 ⟨by omega, rfl⟩, octets, ih.2 hrest, ?_, rfl⟩
      rw [show 16 * (b.toNat / 16) + b.toNat % 16 = b.toNat by omega, UInt8.ofNat_toNat]

/-! ### References as texts -/

/-- The digits in lower case are taken for their values, and nothing else is. -/
theorem digitValue?_eq_some_iff {c : Char} {n : Nat} :
    digitValue? c = some n ↔ n < 16 ∧ c = Nat.digitChar n := by
  constructor
  · intro h
    have hc : c = Char.ofNat c.toNat := (Char.ofNat_toNat c).symm
    unfold digitValue? at h
    split at h
    · next hrange =>
      obtain ⟨hlow, hhigh⟩ : 48 ≤ c.toNat ∧ c.toNat ≤ 57 := hrange
      obtain rfl := Option.some.inj h
      generalize c.toNat = m at hc hlow hhigh
      subst hc
      interval_cases m <;> decide
    · split at h
      · next hrange =>
        obtain ⟨hlow, hhigh⟩ : 97 ≤ c.toNat ∧ c.toNat ≤ 102 := hrange
        obtain rfl := Option.some.inj h
        generalize c.toNat = m at hc hlow hhigh
        subst hc
        interval_cases m <;> decide
      · exact absurd h (by simp)
  · rintro ⟨hn, rfl⟩
    interval_cases n <;> decide

theorem octets?_eq_some_iff {digits : List Char} :
    octets? digits = some octets ↔ digits = octets.flatMap octetDigits := by
  rw [octets?_eq_pairs?]
  exact pairs?_eq_some_iff fun _ _ _ => digitValue?_eq_some_iff

/-- The digest of thirty-two octets. -/
def ofList? (octets : List UInt8) : Option ContentDigest :=
  if h : octets.toArray.size = 32 then some ⟨⟨octets.toArray, h⟩⟩ else none

theorem ofList?_eq_some_iff : ofList? octets = some d ↔ octets = d.octets.toList := by
  obtain ⟨⟨array, harray⟩⟩ := d
  unfold ofList?
  split
  · simp [Vector.toList, List.toArray_eq_iff]
  · next h =>
    refine iff_of_false (by simp) ?_
    rintro rfl
    exact h (by simpa [Vector.toList] using harray)

/-- A text is read part by part, and refused by its name where a part is not as it should be. -/
theorem ofReference_eq : ofReference text =
    (((afterLead? text.toList).bind octets?).bind ofList?).elim (.error ⟨text⟩) .ok := by
  unfold ofReference
  split
  · next found h =>
    rw [h, Option.bind_some, ofList?]
    split <;> rfl
  · next h => rw [h]; rfl

/-- A text stands for a digest exactly when it is the reference to it. -/
theorem bind_ofList?_eq_some_iff :
    ((afterLead? text.toList).bind octets?).bind ofList? = some d ↔ text = d.reference := by
  have hreference : d.reference.toList = "sha256:".toList ++ d.octets.toList.flatMap octetDigits :=
    String.toList_ofList
  rw [← String.toList_inj, hreference]
  simp only [Option.bind_eq_some_iff, afterLead?_eq_some_iff, octets?_eq_some_iff,
    ofList?_eq_some_iff]
  constructor
  · rintro ⟨_, ⟨_, htext, rfl⟩, rfl⟩
    exact htext
  · intro htext
    exact ⟨_, ⟨_, htext, rfl⟩, rfl⟩

/-- **What is read is what was written.** -/
theorem ofReference_eq_ok_iff : ofReference text = .ok d ↔ text = d.reference := by
  rw [ofReference_eq, ← bind_ofList?_eq_some_iff]
  cases ((afterLead? text.toList).bind octets?).bind ofList? <;> simp

/-- A text that is no reference is refused, and the refusal names it. -/
theorem ofReference_eq_error_iff {e : InvalidReference} :
    ofReference text = .error e ↔ e = ⟨text⟩ ∧ ∀ d : ContentDigest, text ≠ d.reference := by
  simp only [ne_eq, ← bind_ofList?_eq_some_iff]
  rw [ofReference_eq]
  cases ((afterLead? text.toList).bind octets?).bind ofList? with
  | none => simp [eq_comm]
  | some d => simp

/-! ### References as octets -/

/-- Whether an octet is a capital letter. -/
def isCapital (b : UInt8) : Bool := 0x41 ≤ b && b ≤ 0x5a

/-- The digest that octets refer to. The digits are read in either case, so that octets with a capital
letter behind the lead are set aside first. -/
def ofOctets? (text : Bytes) : Option ContentDigest := do
  let digits ← text.dropPrefix? (Bytes.ofChars leadChars)
  guard (digits.any isCapital = false)
  let octets ← pairs? Json.hexValue? digits
  ofList? octets

/-- The octet of a digit. -/
def digitOctet (n : Nat) : UInt8 := UInt8.ofNat (Nat.digitChar n).toNat

/-- Of octets that are no capital letter, the reading in either case takes the digits in lower case
for their values, and nothing else. -/
theorem hexValue?_eq_some_iff {b : UInt8} (hb : isCapital b = false) {n : Nat} :
    Json.hexValue? b = some n ↔ n < 16 ∧ b = digitOctet n := by
  constructor
  · intro h
    have hnumber : b = UInt8.ofNat b.toNat := UInt8.ofNat_toNat.symm
    simp only [Json.hexValue?, Json.isDigit, Bool.and_eq_true, decide_eq_true_eq,
      UInt8.le_iff_toNat_le, UInt8.reduceToNat] at h
    simp only [isCapital, Bool.and_eq_false_iff, decide_eq_false_iff_not,
      UInt8.le_iff_toNat_le, UInt8.reduceToNat] at hb
    generalize b.toNat = m at hnumber h hb
    subst hnumber
    split_ifs at h with hdigit hcapital hletter
    · obtain rfl := Option.some.inj h
      obtain ⟨hlow, hhigh⟩ := hdigit
      interval_cases m <;> decide
    · omega
    · obtain rfl := Option.some.inj h
      obtain ⟨hlow, hhigh⟩ := hletter
      interval_cases m <;> decide
  · rintro ⟨hn, rfl⟩
    exact Json.hexValue?_digitChar hn

/-- Each digit that is written is one octet. -/
theorem ofChars_octetDigits (octets : List UInt8) :
    Bytes.ofChars (octets.flatMap octetDigits) =
      octets.flatMap fun b => [digitOctet (b.toNat / 16), digitOctet (b.toNat % 16)] := by
  induction octets with
  | nil => rfl
  | cons b rest ih =>
    have hb : b.toNat < 256 := b.toNat_lt
    have hhigh : (Nat.digitChar (b.toNat / 16)).toNat < 0x80 :=
      Json.toNat_digitChar_lt (by omega)
    have hlow : (Nat.digitChar (b.toNat % 16)).toNat < 0x80 :=
      Json.toNat_digitChar_lt (by omega)
    rw [List.flatMap_cons, List.flatMap_cons, Bytes.ofChars_append, ih, octetDigits,
      Bytes.ofChars_cons_of_ascii hhigh, Bytes.ofChars_cons_of_ascii hlow, Bytes.ofChars_nil]
    rfl

/-- No digit that is written is a capital letter. -/
theorem isCapital_of_mem {b : UInt8} (hb : b ∈ Bytes.ofChars (octets.flatMap octetDigits)) :
    isCapital b = false := by
  have hdigit (n : Nat) (hn : n < 16) : isCapital (digitOctet n) = false := by
    interval_cases n <;> decide
  rw [ofChars_octetDigits] at hb
  obtain ⟨octet, -, hb⟩ := List.mem_flatMap.1 hb
  have hoctet : octet.toNat < 256 := octet.toNat_lt
  rcases List.mem_pair.1 hb with rfl | rfl
  · exact hdigit _ (by omega)
  · exact hdigit _ (by omega)

/-- Octets that hold no capital letter and are read in either case are those of digits as they are
written. -/
theorem pairs?_hexValue?_iff {digits : Bytes} :
    digits.any isCapital = false ∧ pairs? Json.hexValue? digits = some octets ↔
      digits = Bytes.ofChars (octets.flatMap octetDigits) := by
  rw [ofChars_octetDigits]
  constructor
  · rintro ⟨hcapital, hpairs⟩
    have hlower := List.any_eq_false.1 hcapital
    exact (pairs?_eq_some_iff fun b hb n =>
      hexValue?_eq_some_iff (by simpa using hlower b hb)).1 hpairs
  · intro hdigits
    have hlower : ∀ b ∈ digits, isCapital b = false := by
      rw [hdigits, ← ofChars_octetDigits]
      exact fun b hb => isCapital_of_mem hb
    exact ⟨List.any_eq_false.2 (by simpa using hlower),
      (pairs?_eq_some_iff fun b hb n => hexValue?_eq_some_iff (hlower b hb)).2 hdigits⟩

/-- **What octets are read as is what they are written for.** -/
theorem ofOctets?_eq_some_iff {text : Bytes} :
    ofOctets? text = some d ↔ text = Bytes.ofText d.reference := by
  have hread : ofOctets? text = some d ↔ ∃ digits, text = Bytes.ofChars leadChars ++ digits ∧
      digits.any isCapital = false ∧ pairs? Json.hexValue? digits = some d.octets.toList := by
    simp [ofOctets?, Option.bind_eq_some_iff, List.dropPrefix?_eq_some_iff, ofList?_eq_some_iff]
  rw [hread, reference, Bytes.ofText_ofList, Bytes.ofChars_append]
  simp only [pairs?_hexValue?_iff]
  constructor
  · rintro ⟨_, htext, rfl⟩
    exact htext
  · intro htext
    exact ⟨_, htext, rfl⟩

/-! ### One to one -/

/-- The texts of the form of references are the references to digests. -/
theorem isReference_iff_exists : IsReference text ↔ ∃ d : ContentDigest, text = d.reference := by
  constructor
  · intro h
    obtain ⟨d, hd⟩ : ∃ d, ofReference text = .ok d := by
      have hread := ofReference_isOk_iff.2 h
      cases hof : ofReference text with
      | ok d => exact ⟨d, rfl⟩
      | error e => simp [hof, Except.isOk, Except.toBool] at hread
    exact ⟨d, ofReference_eq_ok_iff.1 hd⟩
  · rintro ⟨d, rfl⟩
    exact d.isReference_reference

/-- **Texts that are read and digests are one to one.** A text is read as a digest exactly when it is
the reference to it, so that each digest is read from one text. Every text of another form is refused,
and the refusal names it. The octets of a text give the same answer when digits of either case are
read, once capital letters are set aside. -/
theorem ofReference_inverts_reference :
    (∀ text d, ofReference text = .ok d ↔ text = d.reference) ∧
    (∀ d, ∃! text, ofReference text = .ok d) ∧
    (∀ text e, ofReference text = .error e ↔ e = ⟨text⟩ ∧ ¬ IsReference text) ∧
    ∀ text, ofReference text = (ofOctets? (Bytes.ofText text)).elim (.error ⟨text⟩) .ok := by
  refine ⟨fun text d => ofReference_eq_ok_iff, fun d => ?_, fun text e => ?_, fun text => ?_⟩
  · refine ⟨d.reference, ofReference_eq_ok_iff.2 rfl, fun text h => ?_⟩
    exact ofReference_eq_ok_iff.1 h
  · rw [ofReference_eq_error_iff, isReference_iff_exists, not_exists]
  · have halike : ((afterLead? text.toList).bind octets?).bind ofList? =
        ofOctets? (Bytes.ofText text) := by
      ext d
      rw [bind_ofList?_eq_some_iff, ofOctets?_eq_some_iff, Bytes.ofText_inj]
    rw [ofReference_eq, halike]

end ControlPlane.ContentDigest
