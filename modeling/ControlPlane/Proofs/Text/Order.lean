import ControlPlane.Proofs.Text.Utf8
import Mathlib.Tactic.SplitIfs

/-!
# The order of texts

Texts are compared character by character, and their octets octet by octet. Both comparisons give the
same order: of two characters, the one with the greater number has the greater octets.

## Main statements

* `Bytes.utf8EncodeChar_append_lt` : the octets of two characters, whatever follows them.
* `Bytes.ofText_lt_iff`, `Bytes.ofText_le_iff` : the order of texts is that of their octets.
-/

namespace ControlPlane.Bytes

/-- The octets of the lesser character are less, whatever stands behind them: a longer form starts with
a greater octet, and forms of one length hold the bits of the number from the highest on. -/
theorem utf8EncodeChar_append_lt {c d : Char} (h : c < d) (x y : Bytes) :
    String.utf8EncodeChar c ++ x < String.utf8EncodeChar d ++ y := by
  have hcd : c.val.toNat < d.val.toNat := h
  have hd : d.val.toNat < 0x110000 := by
    rcases d.valid with h | h
    · exact Nat.lt_trans h (by decide)
    · exact h.2
  have htwice (n : Nat) : n / 4096 = n / 64 / 64 := (Nat.div_div_eq_div_mul n 64 64).symm
  have hthrice (n : Nat) : n / 262144 = n / 64 / 64 / 64 := by
    rw [← htwice, Nat.div_div_eq_div_mul]
  have hone {n : Nat} (hn : n ≤ 127) : (UInt8.ofNat n).toNat = n :=
    UInt8.toNat_ofNat_of_lt' (Nat.lt_of_le_of_lt hn (by decide))
  rw [String.utf8EncodeChar, String.utf8EncodeChar]
  generalize c.val.toNat = v at hcd
  generalize d.val.toNat = w at hcd hd
  split_ifs <;>
    simp (disch := omega) only [List.cons_append, List.nil_append, List.cons_lt_cons_iff,
      UInt8.lt_iff_toNat_lt, ← UInt8.toNat_inj, toNat_marked, hone, htwice, hthrice]
  all_goals omega

theorem ofChars_lt_ofChars {cs ds : List Char} (h : cs < ds) : ofChars cs < ofChars ds := by
  induction h with
  | @nil d ds =>
    rw [ofChars_nil, ofChars_cons]
    obtain ⟨b, bs, hb⟩ := List.exists_cons_of_ne_nil (String.utf8EncodeChar_ne_nil (c := d))
    rw [hb]
    exact List.nil_lt_cons _ _
  | rel h =>
    rw [ofChars_cons, ofChars_cons]
    exact utf8EncodeChar_append_lt h _ _
  | cons _ ih =>
    rw [ofChars_cons, ofChars_cons]
    exact List.append_left_lt ih

/-- **One text is before another exactly when its octets are.** -/
theorem ofText_lt_iff {s t : String} : ofText s < ofText t ↔ s < t := by
  rw [ofText_eq, ofText_eq, String.lt_iff]
  refine ⟨fun h => ?_, ofChars_lt_ofChars⟩
  rcases Std.lt_trichotomy s.toList t.toList with hlt | heq | hgt
  · exact hlt
  · exact absurd (heq ▸ h) (List.lt_irrefl _)
  · exact absurd h (List.lt_asymm (ofChars_lt_ofChars hgt))

theorem ofText_le_iff {s t : String} : ofText s ≤ ofText t ↔ s ≤ t :=
  not_congr ofText_lt_iff

end ControlPlane.Bytes
