import AudioMulticast.Proofs.Wire.ReadBack
import Mathlib.Data.String.Basic

/-!
# The order of texts and of their bytes

Texts are in the order of their characters.  The bytes of a character decide at the first difference
which of two characters is the lower one, and none of them is left undecided by the bytes of the
other, so texts are in the order of their bytes as well.
-/

namespace AudioMulticast
namespace Bytes

theorem ofNat_lt_ofNat_iff {left right : Nat} (left_lt : left < 256) (right_lt : right < 256) :
    UInt8.ofNat left < UInt8.ofNat right ↔ left < right := by
  rw [UInt8.lt_iff_toNat_lt, UInt8.toNat_ofNat_of_lt' left_lt, UInt8.toNat_ofNat_of_lt' right_lt]

theorem ofNat_eq_ofNat_iff {left right : Nat} (left_lt : left < 256) (right_lt : right < 256) :
    UInt8.ofNat left = UInt8.ofNat right ↔ left = right := by
  rw [← UInt8.toNat_inj, UInt8.toNat_ofNat_of_lt' left_lt, UInt8.toNat_ofNat_of_lt' right_lt]

/-- Of two numbers the lower one is lower without its last digit in base 64, or in that digit. -/
theorem div_lt_or_mod_le {left right : Nat} (le : left ≤ right) :
    left / 64 < right / 64 ∨ left / 64 = right / 64 ∧ left % 64 ≤ right % 64 := by
  omega

/-- The bytes of two characters decide about their order, whatever follows them. -/
theorem utf8EncodeChar_append_lt {left right : Char} (less : left < right) (front back : Bytes) :
    String.utf8EncodeChar left ++ front < String.utf8EncodeChar right ++ back := by
  have less : left.val.toNat < right.val.toNat := less
  have right_lt : right.val.toNat < 0x110000 := by
    have valid := right.valid
    simp only [UInt32.isValidChar, Nat.isValidChar] at valid
    omega
  simp only [String.utf8EncodeChar]
  generalize left.val.toNat = left at *
  generalize right.val.toNat = right at *
  -- The bytes are digits in base 64, so the numbers are compared digit by digit.
  have second (value : Nat) : value / 4096 = value / 64 / 64 := by omega
  have third (value : Nat) : value / 262144 = value / 64 / 64 / 64 := by omega
  have last := div_lt_or_mod_le less.le
  have middle := div_lt_or_mod_le (Nat.div_le_div_right less.le : left / 64 ≤ right / 64)
  have first :=
    div_lt_or_mod_le
      (Nat.div_le_div_right (Nat.div_le_div_right less.le) : left / 64 / 64 ≤ right / 64 / 64)
  simp only [second, third]
  split_ifs
  all_goals
    simp (disch := omega) only [List.cons_append, List.nil_append, List.cons_lt_cons_iff,
      ofNat_lt_ofNat_iff, ofNat_eq_ofNat_iff]
    omega

/-- No bytes are left once a character is taken away, or the bytes go on. -/
theorem nil_lt_utf8EncodeChar_append (char : Char) (rest : Bytes) :
    [] < String.utf8EncodeChar char ++ rest := by
  rw [String.utf8EncodeChar]
  split_ifs
  all_goals exact List.nil_lt_cons _ _

theorem ofText_lt_ofText {left right : List Char} (less : left < right) :
    ofText left < ofText right := by
  simp only [ofText_eq_flatMap]
  induction left generalizing right with
  | nil =>
      cases right with
      | nil => exact absurd less (List.lt_irrefl _)
      | cons char right =>
          rw [List.flatMap_cons]
          exact nil_lt_utf8EncodeChar_append char _
  | cons char left ih =>
      cases right with
      | nil => exact absurd less (List.not_lt_nil _)
      | cons other right =>
          rw [List.flatMap_cons, List.flatMap_cons]
          rcases List.cons_lt_cons_iff.mp less with lower | ⟨rfl, rest⟩
          · exact utf8EncodeChar_append_lt lower _ _
          · exact List.append_left_lt (ih rest)

/-- Names are in the order of their bytes. -/
theorem ofText_lt_ofText_iff {left right : String} :
    ofText left.toList < ofText right.toList ↔ left < right := by
  refine ⟨fun less => ?_, fun less => ofText_lt_ofText (String.lt_iff.mp less)⟩
  rcases lt_trichotomy left right with before | same | behind
  · exact before
  · rw [same] at less
    exact absurd less (List.lt_irrefl _)
  · exact absurd (ofText_lt_ofText (String.lt_iff.mp behind)) (List.lt_asymm less)

end Bytes
end AudioMulticast
