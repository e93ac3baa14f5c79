/-!
# Decimal numbers

Numbers are written in base ten without leading zeros.  They are read leniently: an optional sign,
then one or more ASCII digits, leading zeros allowed, up to a limit that the number stays below.
-/

namespace AudioMulticast
namespace Text
namespace Decimal

/-- A number in base ten, without leading zeros. -/
def digits (value : Nat) : List Char :=
  Nat.toDigits 10 value

/-- The value of a text that consists of one or more ASCII digits. -/
def ofDigits? (text : List Char) : Option Nat :=
  if text ≠ [] ∧ text.all Char.isDigit then some (Nat.ofDigitChars 10 text 0) else none

/-- The text after an optional plus sign. -/
def dropPlus : List Char → List Char
  | '+' :: rest => rest
  | text => text

/-- The number below `limit` that a text stands for: digits after an optional plus sign. -/
def ofText? (limit : Nat) (text : List Char) : Option Nat :=
  (ofDigits? (dropPlus text)).filter (· < limit)

/-- As `ofText?`, but a minus sign is accepted too, as long as the number is zero. -/
def ofSignedText? (limit : Nat) : List Char → Option Nat
  | '-' :: rest => (ofDigits? rest).filter (· = 0)
  | text => ofText? limit text

theorem isDigit_of_mem_digits {value : Nat} {c : Char} (member : c ∈ digits value) :
    c.isDigit = true :=
  Nat.isDigit_of_mem_toDigits (by decide) (by decide) member

theorem ofDigits?_digits (value : Nat) : ofDigits? (digits value) = some value := by
  have nonempty : digits value ≠ [] := Nat.toDigits_ne_nil
  have all_digits : (digits value).all Char.isDigit = true :=
    List.all_eq_true.mpr fun _ member => isDigit_of_mem_digits member
  have read_back : Nat.ofDigitChars 10 (digits value) 0 = value := Nat.ofDigitChars_ten_toDigits
  simp [ofDigits?, nonempty, all_digits, read_back]

theorem dropPlus_of_isDigit {text : List Char} (digits : ∀ c ∈ text, c.isDigit = true) :
    dropPlus text = text := by
  unfold dropPlus
  split
  · exact absurd (digits '+' List.mem_cons_self) (by decide)
  · rfl

/-- What is written is read back. -/
theorem ofText?_digits {limit value : Nat} (below : value < limit) :
    ofText? limit (digits value) = some value := by
  have signless : dropPlus (digits value) = digits value :=
    dropPlus_of_isDigit fun _ member => isDigit_of_mem_digits member
  simp [ofText?, signless, ofDigits?_digits, below]

end Decimal
end Text
end AudioMulticast
