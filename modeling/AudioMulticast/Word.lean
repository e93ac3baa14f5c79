/-!
# Words of 64 bits

Packet ids, session ids and byte counts are numbers below `2 ^ 64`.  Calculations are carried out
on natural numbers; a sum or a product that leaves the range of a word is an `Overflow`, which ends
the run that asked for it, and is never wrapped around.
-/

namespace AudioMulticast

/-- Number of words. -/
abbrev Word.count : Nat := Nat.pow 2 64

instance : @NeZero Nat Zero.ofOfNat0 Word.count :=
  ⟨by decide⟩

/-- A number of 64 bits. -/
abbrev Word := Fin Word.count

/-- A calculation whose result does not fit into a word. -/
inductive Overflow where
  /-- A sum was too large. -/
  | addition
  /-- A product was too large. -/
  | multiplication
  /-- The size of a block of memory was too large. -/
  | capacity
  deriving DecidableEq, Repr

/-- What is reported about a calculation that does not fit. -/
def Overflow.message : Overflow → String
  | .addition => "attempt to add with overflow"
  | .multiplication => "attempt to multiply with overflow"
  | .capacity => "capacity overflow"

namespace Overflow

variable {α β : Type}

@[simp]
theorem ok_bind (value : α) (next : α → Except Overflow β) :
    ((.ok value : Except Overflow α) >>= next) = next value :=
  rfl

@[simp]
theorem error_bind (overflow : Overflow) (next : α → Except Overflow β) :
    ((.error overflow : Except Overflow α) >>= next) = .error overflow :=
  rfl

/-- A calculation in two parts has a result if both parts have one. -/
theorem bind_eq_ok_iff {first : Except Overflow α} {next : α → Except Overflow β} {result : β} :
    first >>= next = .ok result ↔ ∃ value, first = .ok value ∧ next value = .ok result := by
  cases first with
  | error overflow => simp
  | ok value => simp

/-- A calculation in two parts overflows in one of them. -/
theorem bind_eq_error_iff {first : Except Overflow α} {next : α → Except Overflow β}
    {overflow : Overflow} :
    first >>= next = .error overflow ↔
      first = .error overflow ∨ ∃ value, first = .ok value ∧ next value = .error overflow := by
  cases first with
  | error other => simp
  | ok value => simp

theorem map_eq_ok_iff {first : Except Overflow α} {view : α → β} {result : β} :
    first.map view = .ok result ↔ ∃ value, first = .ok value ∧ view value = result := by
  cases first with
  | error overflow => simp [Except.map]
  | ok value => simp [Except.map]

end Overflow

namespace Word

/-- The word with a given value, if the value is in range. -/
def ofNat? (value : Nat) : Option Word :=
  if inRange : value < Word.count then some ⟨value, inRange⟩ else none

/-- The sum of two numbers, if it fits into a word. -/
def add (left right : Nat) : Except Overflow Nat :=
  if left + right < Word.count then .ok (left + right) else .error .addition

/-- The product of two numbers, if it fits into a word. -/
def mul (left right : Nat) : Except Overflow Nat :=
  if left * right < Word.count then .ok (left * right) else .error .multiplication

/-- The sum of two numbers, or the greatest word where the sum does not fit. -/
def saturatingAdd (left right : Nat) : Nat :=
  min (left + right) (Word.count - 1)

theorem add_of_lt {left right : Nat} (fits : left + right < Word.count) :
    add left right = .ok (left + right) :=
  if_pos fits

theorem add_of_le {left right : Nat} (tooLarge : Word.count ≤ left + right) :
    add left right = .error .addition :=
  if_neg (Nat.not_lt.mpr tooLarge)

theorem add_eq_error_iff {left right : Nat} {overflow : Overflow} :
    add left right = .error overflow ↔ Word.count ≤ left + right ∧ overflow = .addition := by
  rcases Nat.lt_or_ge (left + right) Word.count with fits | tooLarge
  · rw [add_of_lt fits]
    exact iff_of_false (by rintro ⟨⟩) fun exceeds => Nat.not_le.mpr fits exceeds.1
  · rw [add_of_le tooLarge]
    exact ⟨by rintro ⟨⟩; exact ⟨tooLarge, rfl⟩, by rintro ⟨-, rfl⟩; rfl⟩

theorem mul_of_lt {left right : Nat} (fits : left * right < Word.count) :
    mul left right = .ok (left * right) :=
  if_pos fits

theorem mul_of_le {left right : Nat} (tooLarge : Word.count ≤ left * right) :
    mul left right = .error .multiplication :=
  if_neg (Nat.not_lt.mpr tooLarge)

theorem saturatingAdd_of_lt {left right : Nat} (fits : left + right < Word.count) :
    saturatingAdd left right = left + right :=
  Nat.min_eq_left (Nat.le_sub_one_of_lt fits)

theorem ofNat?_val (word : Word) : ofNat? word.val = some word := by
  simp [ofNat?, word.isLt]

theorem ofNat?_eq_some_iff {value : Nat} {word : Word} :
    ofNat? value = some word ↔ word.val = value := by
  constructor
  · intro found
    unfold ofNat? at found
    split at found
    · cases found
      rfl
    · cases found
  · rintro rfl
    exact ofNat?_val word

end Word
end AudioMulticast
