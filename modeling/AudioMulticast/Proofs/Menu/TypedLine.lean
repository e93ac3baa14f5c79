import AudioMulticast.Proofs.Menu.KeyGrammar

/-!
# Typed lines

A line of any length may be typed, and it may arrive in pieces.  The reader keeps its first 64
characters and judges it by them: it takes them for a step if they spell one.  A longer line can
therefore stand for a step that it does not spell, and hide one that it does.
-/

namespace AudioMulticast
namespace Menu

/-- The text that ASCII bytes stand for. -/
def asciiText (line : Bytes) : List Char :=
  line.map fun byte => Char.ofNat byte.toNat

namespace KeyUnit

theorem directions_append (past front back : List KeyUnit) :
    directions past (front ++ back) = directions past front ++ directions (past ++ front) back := by
  induction front generalizing past with
  | nil => simp [directions]
  | cons unit front ih => simp [directions, ih]

/-- The bytes of a line are units on their own, and none of them stands for a step. -/
theorem exists_units_of_typed {line : Bytes} (typed : ∀ byte ∈ line, 32 ≤ byte ∧ byte ≤ 126) :
    ∃ units : List KeyUnit,
      units.flatMap bytes = line ∧ lineOf units = (asciiText line).take 64 ∧
        ∀ past, directions past units = [] := by
  suffices read : ∃ units : List KeyUnit, units.flatMap bytes = line ∧
      (∀ unit ∈ units, unit.endsLine = false) ∧ units.filterMap typed? = asciiText line ∧
        ∀ past, directions past units = [] by
    obtain ⟨units, bytes_eq, inside, text_eq, silent⟩ := read
    have whole : (units.rtakeWhile fun unit => !unit.endsLine) = units :=
      List.rtakeWhile_eq_self_iff.mpr fun unit member => by simp [inside unit member]
    exact ⟨units, bytes_eq, by rw [lineOf, whole, text_eq], silent⟩
  induction line with
  | nil => exact ⟨[], by simp [asciiText, directions]⟩
  | cons byte line ih =>
      rw [List.forall_mem_cons] at typed
      obtain ⟨units, bytes_eq, inside, text_eq, silent⟩ := ih typed.2
      have plain : byte ≠ 27 ∧ byte ≠ 255 := by grind
      have inside_first : (single byte plain).endsLine = false := by
        simp only [endsLine, decide_eq_false_iff_not]
        grind
      have typed_first : (single byte plain).typed? = some (Char.ofNat byte.toNat) :=
        if_pos typed.1
      refine ⟨.single byte plain :: units, ?_, ?_, ?_, fun past => ?_⟩
      · rw [List.flatMap_cons, bytes_eq]
        rfl
      · exact List.forall_mem_cons.mpr ⟨inside_first, inside⟩
      · rw [List.filterMap_cons_some typed_first, text_eq]
        rfl
      · simp [directions, direction?, inside_first, silent]

end KeyUnit

namespace KeyReader

open KeyUnit

/-- Whether a reader has seen nothing of a line yet. -/
structure IsAtLineStart (reader : KeyReader) : Prop where
  /-- It is in no escape sequence and in no telnet command. -/
  phase_eq : reader.phase = .text
  /-- No character has been typed. -/
  line_eq : reader.line = []

/-- Whether a reader takes the line that arrives in chunks for a given text. -/
structure TakesFor (reader : KeyReader) (chunks : List Bytes) (text : List Char) : Prop where
  /-- The line is over. -/
  restarts : (reader.feedChunks chunks).1.IsAtLineStart
  /-- The step is answered that the text spells, -/
  answers_iff (direction : Direction) :
    (reader.feedChunks chunks).2.flatten = [direction] ↔ Spells text direction.word
  /-- and nothing if it does not spell one. -/
  silent_iff :
    (reader.feedChunks chunks).2.flatten = [] ↔ ∀ direction : Direction, ¬Spells text direction.word

variable {line : Bytes} {ending : UInt8}

/-- A line and its end are answered by what the first 64 characters spell. -/
theorem feed_typed_line (typed : ∀ byte ∈ line, 32 ≤ byte ∧ byte ≤ 126)
    (ends : ending = 13 ∨ ending = 10 ∨ ending = 0) :
    KeyReader.feed {} (line ++ [ending]) =
      ({}, (spelled? ((asciiText line).take 64)).toList) := by
  obtain ⟨units, bytes_eq, line_eq, silent⟩ := exists_units_of_typed typed
  have plain : ending ≠ 27 ∧ ending ≠ 255 := by grind
  have ended : (single ending plain).endsLine = true := decide_eq_true ends
  have stream_eq : line ++ [ending] = (units ++ [single ending plain]).flatMap bytes := by
    simp [bytes_eq, bytes]
  calc
    KeyReader.feed {} (line ++ [ending]) =
        (behind (units ++ [single ending plain]), directions [] (units ++ [single ending plain])) :=
      stream_eq ▸ feed_units [] (units ++ [single ending plain])
    _ = ({}, (spelled? ((asciiText line).take 64)).toList) := by
      simp [behind, lineOf_concat_of_endsLine ended, directions_append, directions, direction?,
        silent, ended, line_eq]

/-- A line is taken for its first 64 characters. -/
theorem takesFor_of_typed {reader : KeyReader} {chunks : List Bytes}
    (started : reader.IsAtLineStart) (typed : ∀ byte ∈ line, 32 ≤ byte ∧ byte ≤ 126)
    (ends : ending = 13 ∨ ending = 10 ∨ ending = 0) (delivered : chunks.flatten = line ++ [ending]) :
    reader.TakesFor chunks ((asciiText line).take 64) := by
  obtain rfl : reader = {} := by
    cases reader
    cases started.phase_eq
    cases started.line_eq
    rfl
  have answers_eq := (feed_flatten {} chunks).symm
  rw [delivered, feed_typed_line typed ends, Prod.mk.injEq] at answers_eq
  obtain ⟨last_eq, steps_eq⟩ := answers_eq
  constructor
  · rw [last_eq]
    exact ⟨rfl, rfl⟩
  · intro direction
    simp only [steps_eq, ← spelled?_eq_some_iff, Option.toList_eq_singleton_iff]
  · simp only [steps_eq, ← spelled?_eq_some_iff, Option.toList_eq_nil_iff,
      Option.eq_none_iff_forall_ne_some, ne_eq]

/-- `Down` with blanks around it, and a mark behind the 64th character. -/
def paddedDown : Bytes :=
  List.replicate 20 32 ++ [68, 111, 119, 110] ++ List.replicate 40 32 ++ [33]

theorem takesFor_of_typed_paddedDown :
    TakesFor {} [paddedDown.take 22, paddedDown.drop 22 ++ [0]] ((asciiText paddedDown).take 64) ∧
      Spells ((asciiText paddedDown).take 64) Direction.down.word ∧
      (KeyReader.feedChunks {} [paddedDown.take 22, paddedDown.drop 22 ++ [0]]).2.flatten =
        [.down] := by
  have taken : TakesFor {} [paddedDown.take 22, paddedDown.drop 22 ++ [0]]
      ((asciiText paddedDown).take 64) :=
    takesFor_of_typed ⟨rfl, rfl⟩ (by decide +kernel) (.inr (.inr rfl)) (by decide)
  have spells : Spells ((asciiText paddedDown).take 64) Direction.down.word := by
    decide
  exact ⟨taken, spells, (taken.answers_iff .down).mpr spells⟩

/-- The whole of a longer line may spell nothing when it is taken for a step. -/
theorem not_takesFor_whole_line :
    ¬∀ (line : Bytes) (ending : UInt8) (chunks : List Bytes) (reader : KeyReader),
      reader.IsAtLineStart → (∀ byte ∈ line, 32 ≤ byte ∧ byte ≤ 126) →
        (ending = 13 ∨ ending = 10 ∨ ending = 0) → chunks.flatten = line ++ [ending] →
          reader.TakesFor chunks (asciiText line) := by
  intro whole
  have taken := whole ([117, 112] ++ List.replicate 62 32 ++ [120]) 10
    [[117, 112] ++ List.replicate 62 32 ++ [120, 10]] {} ⟨rfl, rfl⟩ (by decide +kernel)
    (.inr (.inl rfl)) (by decide)
  have spells := (taken.answers_iff .up).mp (by decide)
  exact absurd spells (by decide)

end KeyReader
end Menu
end AudioMulticast
