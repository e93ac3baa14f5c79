import AudioMulticast.Text.Blank
import Mathlib.Data.List.DropRight

/-!
# Words and the white space between them

Reading a text word by word keeps the words and forgets the white space.  What is forgotten can be
restored exactly if the words stand single blanks apart.
-/

namespace AudioMulticast
namespace Text

/-- A part of a text that can be one of its words. -/
structure IsWord (part : List Char) : Prop where
  nonempty : part ≠ []
  solid : ∀ c ∈ part, isBlank c = false

/-- One or more words, single blanks apart, and no other white space. -/
def Spaced (text : List Char) : Prop :=
  ∃ parts, parts ≠ [] ∧ (∀ part ∈ parts, IsWord part) ∧ text = unwords parts

variable {text front back part : List Char} {parts : List (List Char)} {test : Char → Bool}
  {c : Char}

/-! ## Words -/

theorem solid_of_mem_splitOnP (member : part ∈ text.splitOnP test) : ∀ c ∈ part, test c = false := by
  induction text generalizing part with
  | nil =>
      rw [List.splitOnP_nil, List.mem_singleton] at member
      simp [member]
  | cons first text ih =>
      rw [List.splitOnP_cons_eq_if_modifyHead] at member
      cases tested : test first with
      | true =>
          rw [tested, if_pos rfl] at member
          rcases List.mem_cons.mp member with rfl | later
          · simp
          · exact ih later
      | false =>
          obtain ⟨head, parts, split_eq⟩ :=
            List.exists_cons_of_ne_nil (List.splitOnP_ne_nil test text)
          rw [tested, if_neg Bool.false_ne_true, split_eq, List.modifyHead_cons] at member
          rw [split_eq] at ih
          rcases List.mem_cons.mp member with rfl | later
          · rw [List.forall_mem_cons]
            exact ⟨tested, ih List.mem_cons_self⟩
          · exact ih (List.mem_cons_of_mem _ later)

theorem isWord_of_mem_words (member : part ∈ words text) : IsWord part := by
  obtain ⟨split, nonempty⟩ := List.mem_filter.mp member
  exact ⟨by simpa using nonempty, solid_of_mem_splitOnP split⟩

@[simp]
theorem words_nil : words [] = [] := by
  simp [words]

/-- White space parts the words before it from the words after it. -/
theorem words_append_cons (blank : isBlank c = true) :
    words (front ++ c :: back) = words front ++ words back := by
  rw [words, List.splitOnP_append_cons front back blank, List.filter_append]
  rfl

theorem words_cons (blank : isBlank c = true) : words (c :: text) = words text := by
  have parted : words ([] ++ c :: text) = words [] ++ words text := words_append_cons blank
  simpa using parted

theorem words_of_isWord (word : IsWord part) : words part = [part] := by
  rw [words, List.splitOnP_eq_singleton word.solid]
  simp [word.nonempty]

theorem words_eq_nil (blank : ∀ c ∈ text, isBlank c = true) : words text = [] := by
  induction text with
  | nil => exact words_nil
  | cons first text ih =>
      rw [List.forall_mem_cons] at blank
      rw [words_cons blank.1, ih blank.2]

theorem words_cons_ne_nil (solid : isBlank c = false) : words (c :: text) ≠ [] := by
  obtain ⟨head, parts, split_eq⟩ :=
    List.exists_cons_of_ne_nil (List.splitOnP_ne_nil isBlank text)
  rw [words, List.splitOnP_cons_eq_if_modifyHead, solid, if_neg Bool.false_ne_true, split_eq]
  simp

theorem words_append_of_blank (blank : ∀ c ∈ back, isBlank c = true) :
    words (text ++ back) = words text := by
  cases back with
  | nil => rw [List.append_nil]
  | cons first back =>
      rw [List.forall_mem_cons] at blank
      rw [words_append_cons blank.1, words_eq_nil blank.2, List.append_nil]

/-- Joined words are read back. -/
theorem words_unwords (isWord : ∀ part ∈ parts, IsWord part) : words (unwords parts) = parts := by
  induction parts with
  | nil => simp [unwords]
  | cons part parts ih =>
      rw [List.forall_mem_cons] at isWord
      cases parts with
      | nil => simpa [unwords] using words_of_isWord isWord.1
      | cons next parts =>
          have joined :
              unwords (part :: next :: parts) = part ++ ' ' :: unwords (next :: parts) := by
            simp [unwords]
          rw [joined, words_append_cons (by decide), words_of_isWord isWord.1, ih isWord.2]
          rfl

theorem Spaced.words_ne_nil (spaced : Spaced text) : words text ≠ [] := by
  obtain ⟨parts, nonempty, isWord, rfl⟩ := spaced
  rwa [words_unwords isWord]

/-- A text is restored from its words exactly if they stand single blanks apart. -/
theorem unwords_words_eq_iff (nonempty : words text ≠ []) :
    unwords (words text) = text ↔ Spaced text := by
  constructor
  · intro restored
    exact ⟨words text, nonempty, fun part member => isWord_of_mem_words member, restored.symm⟩
  · rintro ⟨parts, -, isWord, rfl⟩
    rw [words_unwords isWord]

/-! ## Cutting at the ends -/

theorem dropEndWhile_append_of_all (all : ∀ c ∈ back, test c = true) :
    dropEndWhile test (front ++ back) = dropEndWhile test front := by
  have dropped : back.reverse.dropWhile test = [] := by
    simpa [List.dropWhile_eq_nil_iff] using all
  rw [dropEndWhile, List.reverse_append, List.dropWhile_append, dropped]
  rfl

/-- What is cut off does not reach over a character that is kept. -/
theorem dropEndWhile_append (kept : ∃ c ∈ back, test c = false) :
    dropEndWhile test (front ++ back) = front ++ dropEndWhile test back := by
  have remains : back.reverse.dropWhile test ≠ [] := by
    obtain ⟨c, member, failed⟩ := kept
    rw [ne_eq, List.dropWhile_eq_nil_iff]
    intro all
    rw [all c (List.mem_reverse.mpr member)] at failed
    cases failed
  rw [dropEndWhile, List.reverse_append, List.dropWhile_append, if_neg (by simpa using remains),
    List.reverse_append, List.reverse_reverse]
  rfl

theorem dropEndWhile_cons (failed : test c = false) :
    dropEndWhile test (c :: text) = c :: dropEndWhile test text := by
  rw [dropEndWhile, List.reverse_cons, List.dropWhile_append]
  cases dropped : text.reverse.dropWhile test with
  | nil => simp [dropEndWhile, dropped, failed]
  | cons last rest => simp [dropEndWhile, dropped]

theorem dropEndWhile_of_none (none : ∀ c ∈ text, test c = false) :
    dropEndWhile test text = text :=
  List.rdropWhile_eq_self_iff.mpr fun nonempty => by simp [none _ (List.getLast_mem nonempty)]

theorem exists_eq_dropEndWhile_append (test : Char → Bool) (text : List Char) :
    ∃ back, (∀ c ∈ back, test c = true) ∧ text = dropEndWhile test text ++ back :=
  ⟨text.rtakeWhile test, fun _ member => List.mem_rtakeWhile_imp member,
    List.rdropWhile_append_rtakeWhile.symm⟩

theorem words_dropEndWhile (blank : ∀ c, test c = true → isBlank c = true) :
    words (dropEndWhile test text) = words text := by
  obtain ⟨back, tested, text_eq⟩ := exists_eq_dropEndWhile_append test text
  conv_rhs => rw [text_eq]
  exact (words_append_of_blank fun c member => blank c (tested c member)).symm

theorem words_trimStart : words (trimStart text) = words text := by
  induction text with
  | nil => rfl
  | cons first text ih =>
      cases blank : isBlank first with
      | true => rw [trimStart, List.dropWhile_cons_of_pos blank, words_cons blank, ← ih, trimStart]
      | false => rw [trimStart, List.dropWhile_cons_of_neg (by simp [blank])]

theorem trim_cons (blank : isBlank c = true) : trim (c :: text) = trim text := by
  rw [trim, trimStart, List.dropWhile_cons_of_pos blank, ← trimStart, ← trim]

/-- A text without words is trimmed to nothing. -/
theorem trim_eq_nil (none : words text = []) : trim text = [] := by
  induction text with
  | nil => rfl
  | cons first text ih =>
      cases blank : isBlank first with
      | true =>
          rw [words_cons blank] at none
          rw [trim_cons blank, ih none]
      | false => exact absurd none (words_cons_ne_nil blank)

theorem trim_append_of_blank (blank : ∀ c ∈ back, isBlank c = true) :
    trim (text ++ back) = trim text := by
  induction text with
  | nil => rw [List.nil_append, trim_eq_nil (words_eq_nil blank), trim_eq_nil words_nil]
  | cons first text ih =>
      cases first_blank : isBlank first with
      | true => rw [List.cons_append, trim_cons first_blank, trim_cons first_blank, ih]
      | false =>
          rw [trim, trim, trimStart, trimStart, List.cons_append,
            List.dropWhile_cons_of_neg (by simp [first_blank]),
            List.dropWhile_cons_of_neg (by simp [first_blank]), ← List.cons_append,
            dropEndWhile_append_of_all blank]

/-- White space around a text does not change what it is trimmed to. -/
theorem trim_pad (front_blank : ∀ c ∈ front, isBlank c = true)
    (back_blank : ∀ c ∈ back, isBlank c = true) : trim (front ++ text ++ back) = trim text := by
  rw [trim_append_of_blank back_blank]
  induction front with
  | nil => rfl
  | cons first front ih =>
      rw [List.forall_mem_cons] at front_blank
      rw [List.cons_append, trim_cons front_blank.1, ih front_blank.2]

theorem exists_eq_append_trim (text : List Char) :
    ∃ front back, (∀ c ∈ front, isBlank c = true) ∧ (∀ c ∈ back, isBlank c = true) ∧
      text = front ++ trim text ++ back := by
  obtain ⟨back, back_blank, kept_eq⟩ := exists_eq_dropEndWhile_append isBlank (trimStart text)
  refine ⟨text.takeWhile isBlank, back, fun c member => List.mem_takeWhile_imp member, back_blank, ?_⟩
  rw [trim, List.append_assoc, ← kept_eq]
  exact List.takeWhile_append_dropWhile.symm

/-- What is trimmed to nothing is all white space. -/
theorem trim_eq_nil_iff : trim text = [] ↔ ∀ c ∈ text, isBlank c = true := by
  constructor
  · intro trimmed
    obtain ⟨front, back, front_blank, back_blank, text_eq⟩ := exists_eq_append_trim text
    rw [trimmed, List.append_nil] at text_eq
    rw [text_eq]
    exact List.forall_mem_append.mpr ⟨front_blank, back_blank⟩
  · exact fun blank => trim_eq_nil (words_eq_nil blank)

theorem trimStart_of_solid (solid : ∀ c ∈ text, isBlank c = false) : trimStart text = text := by
  cases text with
  | nil => rfl
  | cons first text => exact List.dropWhile_cons_of_neg (by simp [solid first List.mem_cons_self])

theorem trim_of_solid (solid : ∀ c ∈ text, isBlank c = false) : trim text = text := by
  rw [trim, trimStart_of_solid solid, dropEndWhile_of_none solid]

theorem forall_mem_intercalate {holds : Char → Prop} {separator : List Char}
    (separator_holds : ∀ c ∈ separator, holds c)
    (parts_hold : ∀ part ∈ parts, ∀ c ∈ part, holds c) :
    ∀ c ∈ separator.intercalate parts, holds c := by
  induction parts with
  | nil => simp
  | cons part parts ih =>
      rw [List.forall_mem_cons] at parts_hold
      cases parts with
      | nil => simpa using parts_hold.1
      | cons next parts =>
          rw [List.intercalate_cons_cons]
          simp only [List.forall_mem_append]
          exact ⟨⟨parts_hold.1, separator_holds⟩, ih parts_hold.2⟩

/-- The only white space of a text whose words stand single blanks apart are these blanks. -/
theorem Spaced.eq_of_isBlank (spaced : Spaced text) (member : c ∈ text)
    (blank : isBlank c = true) : c = ' ' := by
  obtain ⟨parts, -, isWord, rfl⟩ := spaced
  have blank_or_solid : ∀ c ∈ unwords parts, c = ' ' ∨ isBlank c = false :=
    forall_mem_intercalate (by simp) fun part part_member c c_member =>
      .inr ((isWord part part_member).solid c c_member)
  rcases blank_or_solid c member with eq | solid
  · exact eq
  · simp [solid] at blank

end Text
end AudioMulticast
