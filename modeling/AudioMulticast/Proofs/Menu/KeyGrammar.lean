import AudioMulticast.Menu.KeyReader
import Mathlib.Data.List.DropRight
import Mathlib.Tactic.SplitIfs

/-!
# The grammar of keys

A stream of bytes falls into units: escape sequences, telnet commands, and bytes on their own.  What
a unit stands for can be told from the units before it, without any state: an arrow is a step by
itself, and a line end stands for the line that has been typed since the one before.

The reader does not see the stream but chunks of it, and it keeps no more than a phase and a line.
It is shown to answer what the units of the whole stream stand for.
-/

namespace AudioMulticast

/-- The word that is typed for a step. -/
def Direction.word : Direction → String
  | .up => "up"
  | .down => "down"

namespace Menu

/-- Whether a text is a given word, in capital or small letters and with blanks around it. -/
def Spells (text : List Char) (word : String) : Prop :=
  ((text.dropWhile (· == ' ')).rdropWhile (· == ' ')).map Char.toLower = word.toList

instance (text : List Char) (word : String) : Decidable (Spells text word) :=
  inferInstanceAs (Decidable (_ = _))

/-- The step that a text spells. -/
def spelled? (text : List Char) : Option Direction :=
  if Spells text Direction.up.word then some .up
  else if Spells text Direction.down.word then some .down
  else none

theorem spelled?_eq_some_iff {text : List Char} {direction : Direction} :
    spelled? text = some direction ↔ Spells text direction.word := by
  cases direction with
  | up => simp [spelled?]
  | down =>
      by_cases down : Spells text Direction.down.word
      · have not_up : ¬Spells text Direction.up.word := fun up =>
          absurd (up.symm.trans down) (by decide)
        simp [spelled?, down, not_up]
      · simp [spelled?, down]

theorem dropWhile_congr {text : List Char} {test other : Char → Bool}
    (same : ∀ c ∈ text, test c = other c) : text.dropWhile test = text.dropWhile other := by
  induction text with
  | nil => rfl
  | cons first text ih =>
      rw [List.forall_mem_cons] at same
      simp only [List.dropWhile_cons, same.1, ih same.2]

/-- Trimming a line drops the blanks around it. -/
theorem trim_eq {line : List Char} (blank : ∀ c ∈ line, Text.isBlank c = (c == ' ')) :
    Text.trim line = (line.dropWhile (· == ' ')).rdropWhile (· == ' ') := by
  rw [Text.trim, Text.trimStart, dropWhile_congr blank, Text.dropEndWhile, List.rdropWhile]
  refine congrArg _ (dropWhile_congr fun c member => blank c ?_)
  exact (List.dropWhile_sublist _).mem (List.mem_reverse.mp member)

theorem commandOfLine_eq {line : List Char} (blank : ∀ c ∈ line, Text.isBlank c = (c == ' ')) :
    commandOfLine line = spelled? line := by
  rw [commandOfLine, trim_eq blank]
  rfl

/-- A stretch of bytes that belong together. -/
inductive KeyUnit where
  /-- An escape sequence of three bytes, which is opened by a bracket or the letter O. -/
  | arrow (opener last : UInt8) (opens : opener = 91 ∨ opener = 79)
  /-- An escape sequence of two bytes. -/
  | escape (other : UInt8) (closed : ¬(other = 91 ∨ other = 79))
  /-- A telnet command with an option. -/
  | setting (verb option : UInt8) (takes : 251 ≤ verb ∧ verb ≤ 254)
  /-- A telnet command without an option. -/
  | command (verb : UInt8) (bare : ¬(251 ≤ verb ∧ verb ≤ 254))
  /-- A byte on its own. -/
  | single (byte : UInt8) (plain : byte ≠ 27 ∧ byte ≠ 255)

namespace KeyUnit

/-- The bytes of a unit. -/
def bytes : KeyUnit → Bytes
  | .arrow opener last _ => [27, opener, last]
  | .escape other _ => [27, other]
  | .setting verb option _ => [255, verb, option]
  | .command verb _ => [255, verb]
  | .single byte _ => [byte]

/-- The character that a unit adds to a line: a printable one or a blank. -/
def typed? : KeyUnit → Option Char
  | .single byte _ => if 32 ≤ byte ∧ byte ≤ 126 then some (Char.ofNat byte.toNat) else none
  | _ => none

/-- Whether a unit is a carriage return, a line feed or a zero. -/
def endsLine : KeyUnit → Bool
  | .single byte _ => byte = 13 ∨ byte = 10 ∨ byte = 0
  | _ => false

/-- The line that has been typed since the last line end: its first 64 characters. -/
def lineOf (units : List KeyUnit) : List Char :=
  ((units.rtakeWhile fun unit => !unit.endsLine).filterMap typed?).take 64

/-- The step that a unit stands for behind some others. -/
def direction? (past : List KeyUnit) : KeyUnit → Option Direction
  | .arrow _ last _ => if last = 65 then some .up else if last = 66 then some .down else none
  | .single byte plain =>
      if (single byte plain).endsLine then spelled? (lineOf past) else none
  | _ => none

/-- The steps that units stand for, one after another, behind some others. -/
def directions (past : List KeyUnit) : List KeyUnit → List Direction
  | [] => []
  | unit :: units => (unit.direction? past).toList ++ directions (past ++ [unit]) units

/-- Whether bytes are the beginning of a unit, and not all of it. -/
def IsIncomplete (bytes : Bytes) : Prop :=
  ∃ unit : KeyUnit, bytes <+: unit.bytes ∧ bytes ≠ unit.bytes

/-- Whether a stream falls into units, and perhaps an incomplete one at its end. -/
def IsCut (stream : Bytes) (units : List KeyUnit) : Prop :=
  ∃ rest, IsIncomplete rest ∧ stream = units.flatMap bytes ++ rest

/-! ## Cutting a stream -/

/-- Cut a stream into units from the left. -/
def cut : Bytes → List KeyUnit
  | [] => []
  | [byte] => if plain : byte ≠ 27 ∧ byte ≠ 255 then [.single byte plain] else []
  | first :: second :: rest =>
      if isEscape : first = 27 then
        if opens : second = 91 ∨ second = 79 then
          match rest with
          | [] => []
          | last :: rest => .arrow second last opens :: cut rest
        else .escape second opens :: cut rest
      else if isCommand : first = 255 then
        if takes : 251 ≤ second ∧ second ≤ 254 then
          match rest with
          | [] => []
          | option :: rest => .setting second option takes :: cut rest
        else .command second takes :: cut rest
      else .single first ⟨isEscape, isCommand⟩ :: cut (second :: rest)

variable {stream rest : Bytes} {units : List KeyUnit}

theorem exists_bytes_eq_concat (unit : KeyUnit) : ∃ front last, unit.bytes = front ++ [last] := by
  cases unit with
  | arrow opener last opens => exact ⟨[27, opener], last, rfl⟩
  | escape other closed => exact ⟨[27], other, rfl⟩
  | setting verb option takes => exact ⟨[255, verb], option, rfl⟩
  | command verb bare => exact ⟨[255], verb, rfl⟩
  | single byte plain => exact ⟨[], byte, rfl⟩

theorem isIncomplete_iff_prefix_dropLast :
    IsIncomplete rest ↔ ∃ unit : KeyUnit, rest <+: unit.bytes.dropLast := by
  refine exists_congr fun unit => ?_
  obtain ⟨front, last, bytes_eq⟩ := unit.exists_bytes_eq_concat
  rw [bytes_eq, List.dropLast_concat, List.prefix_concat_iff]
  constructor
  · rintro ⟨whole | inside, different⟩
    · exact absurd whole different
    · exact inside
  · intro inside
    refine ⟨.inr inside, fun whole => ?_⟩
    exact absurd inside.length_le (by simp [whole])

/-- What is incomplete stops before a unit, behind its first byte, or where a third one is due. -/
theorem isIncomplete_iff :
    IsIncomplete rest ↔
      rest = [] ∨ rest = [27] ∨ rest = [255] ∨
        (∃ opener, (opener = 91 ∨ opener = 79) ∧ rest = [27, opener]) ∨
          ∃ verb, (251 ≤ verb ∧ verb ≤ 254) ∧ rest = [255, verb] := by
  rw [isIncomplete_iff_prefix_dropLast]
  constructor
  · rintro ⟨unit, inside⟩
    cases unit with
    | arrow opener last opens =>
        simp only [bytes, List.dropLast, List.prefix_cons_iff, List.prefix_nil] at inside
        rcases inside with rfl | ⟨_, rfl, rfl | ⟨_, rfl, rfl⟩⟩
        all_goals simp [opens]
    | escape other closed =>
        simp only [bytes, List.dropLast, List.prefix_cons_iff, List.prefix_nil] at inside
        rcases inside with rfl | ⟨_, rfl, rfl⟩
        all_goals simp
    | setting verb option takes =>
        simp only [bytes, List.dropLast, List.prefix_cons_iff, List.prefix_nil] at inside
        rcases inside with rfl | ⟨_, rfl, rfl | ⟨_, rfl, rfl⟩⟩
        all_goals simp [takes]
    | command verb bare =>
        simp only [bytes, List.dropLast, List.prefix_cons_iff, List.prefix_nil] at inside
        rcases inside with rfl | ⟨_, rfl, rfl⟩
        all_goals simp
    | single byte plain => exact .inl (List.prefix_nil.mp inside)
  · rintro (rfl | rfl | rfl | ⟨opener, opens, rfl⟩ | ⟨verb, takes, rfl⟩)
    · exact ⟨.single 0 (by decide), List.nil_prefix⟩
    · exact ⟨.arrow 91 0 (by decide), [91], rfl⟩
    · exact ⟨.setting 251 0 (by decide), [251], rfl⟩
    · exact ⟨.arrow opener 0 opens, [], rfl⟩
    · exact ⟨.setting verb 0 takes, [], rfl⟩

theorem IsCut.cons (isCut : IsCut stream units) (unit : KeyUnit) :
    IsCut (unit.bytes ++ stream) (unit :: units) := by
  obtain ⟨rest, incomplete, rfl⟩ := isCut
  exact ⟨rest, incomplete, by simp⟩

theorem cut_bytes_append (unit : KeyUnit) (rest : Bytes) :
    cut (unit.bytes ++ rest) = unit :: cut rest := by
  cases unit with
  | arrow opener last opens => simp [bytes, cut, opens]
  | escape other closed => simp [bytes, cut, closed]
  | setting verb option takes => simp [bytes, cut, takes]
  | command verb bare => simp [bytes, cut, bare]
  | single byte plain =>
      cases rest with
      | nil => simp [bytes, cut, plain]
      | cons next rest => simp [bytes, cut, plain]

theorem cut_of_incomplete (incomplete : IsIncomplete rest) : cut rest = [] := by
  rcases isIncomplete_iff.mp incomplete with
    rfl | rfl | rfl | ⟨opener, opens, rfl⟩ | ⟨verb, takes, rfl⟩
  · rfl
  · rfl
  · rfl
  · simp [cut, opens]
  · simp [cut, takes]

theorem isCut_cut (stream : Bytes) : IsCut stream (cut stream) := by
  have incomplete {rest : Bytes} (incomplete : IsIncomplete rest) : IsCut rest [] :=
    ⟨rest, incomplete, rfl⟩
  fun_induction cut stream with
  | case1 => exact incomplete (by simp [isIncomplete_iff])
  | case2 byte plain => exact (incomplete (by simp [isIncomplete_iff])).cons (.single byte plain)
  | case3 byte special =>
      apply incomplete
      rw [isIncomplete_iff]
      grind
  | case4 opener opens => exact incomplete (by simp [isIncomplete_iff, opens])
  | case5 opener opens last rest ih => exact ih.cons (.arrow opener last opens)
  | case6 other rest closed ih => exact ih.cons (.escape other closed)
  | case7 verb takes => exact incomplete (by simp [isIncomplete_iff, takes])
  | case8 verb takes option rest _ ih => exact ih.cons (.setting verb option takes)
  | case9 verb rest bare _ ih => exact ih.cons (.command verb bare)
  | case10 byte next rest notEscape notCommand ih =>
      exact ih.cons (.single byte ⟨notEscape, notCommand⟩)

/-- A stream can be cut in one way only. -/
theorem isCut_iff : IsCut stream units ↔ units = cut stream := by
  constructor
  · rintro ⟨rest, incomplete, rfl⟩
    induction units with
    | nil => simp [cut_of_incomplete incomplete]
    | cons unit units ih => simp [cut_bytes_append, ← ih]
  · rintro rfl
    exact isCut_cut stream

/-! ## Lines -/

variable {past : List KeyUnit} {unit : KeyUnit}

theorem lineOf_concat_of_endsLine (ends : unit.endsLine = true) : lineOf (past ++ [unit]) = [] := by
  simp [lineOf, ends]

/-- Units that add no character do not interrupt the line. -/
theorem lineOf_concat_of_none (inside : unit.endsLine = false) (adds : unit.typed? = none) :
    lineOf (past ++ [unit]) = lineOf past := by
  simp [lineOf, inside, adds]

/-- A character is kept if there is room for it. -/
theorem lineOf_concat_of_some {c : Char} (inside : unit.endsLine = false)
    (adds : unit.typed? = some c) :
    lineOf (past ++ [unit]) =
      if (lineOf past).length < 64 then lineOf past ++ [c] else lineOf past := by
  simp only [lineOf, List.rtakeWhile_concat, inside, Bool.not_false, if_true, List.filterMap_append,
    List.filterMap_cons_some adds, List.filterMap_nil, List.take_append, List.length_take]
  generalize (past.rtakeWhile fun unit => !unit.endsLine).filterMap typed? = text
  split_ifs with room
  · rw [List.take_of_length_le (by simp; omega : [c].length ≤ _)]
  · rw [show 64 - text.length = 0 by omega, List.take_zero, List.append_nil]

theorem endsLine_single (byte : UInt8) (plain : byte ≠ 27 ∧ byte ≠ 255) :
    (single byte plain).endsLine = Menu.endsLine byte := by
  simp [endsLine, Menu.endsLine, Bool.or_assoc, BEq.beq]

theorem typed?_single (byte : UInt8) (plain : byte ≠ 27 ∧ byte ≠ 255) :
    (single byte plain).typed? =
      if isTypable byte then some (Char.ofNat byte.toNat) else none := by
  simp [typed?, isTypable]

theorem toNat_of_typed? {c : Char} (adds : unit.typed? = some c) :
    32 ≤ c.toNat ∧ c.toNat ≤ 126 := by
  cases unit with
  | single byte plain =>
      rw [typed?, Option.ite_none_right_eq_some, Option.some_inj] at adds
      obtain ⟨⟨ge, le⟩, rfl⟩ := adds
      rw [UInt8.le_iff_toNat_le] at ge le
      have valid : byte.toNat.isValidChar := .inl (le.trans_lt (by decide))
      rw [Char.ofNat, dif_pos valid]
      exact ⟨ge, le⟩
  | _ => cases adds

/-- The only white space of a line are blanks. -/
theorem isBlank_of_mem_lineOf {c : Char} (member : c ∈ lineOf past) :
    Text.isBlank c = (c == ' ') := by
  obtain ⟨unit, -, adds⟩ := List.mem_filterMap.mp (List.mem_of_mem_take member)
  obtain ⟨ge, le⟩ := toNat_of_typed? adds
  rw [Bool.eq_iff_iff, beq_iff_eq, ← Char.toNat_inj]
  simp [Text.isBlank]
  omega

end KeyUnit

namespace KeyReader

open KeyUnit

/-- Read a stream that arrives in chunks, and answer the steps that each of them has completed. -/
def feedChunks (reader : KeyReader) : List Bytes → KeyReader × List (List Direction)
  | [] => (reader, [])
  | chunk :: chunks =>
      let (next, directions) := reader.feed chunk
      let (last, answers) := next.feedChunks chunks
      (last, directions :: answers)

theorem feed_append (reader : KeyReader) (front back : Bytes) :
    reader.feed (front ++ back) =
      (((reader.feed front).1.feed back).1,
        (reader.feed front).2 ++ ((reader.feed front).1.feed back).2) := by
  induction front generalizing reader with
  | nil => simp [feed]
  | cons byte front ih => simp [feed, ih]

/-- How a stream is divided into chunks makes no difference. -/
theorem feed_flatten (reader : KeyReader) (chunks : List Bytes) :
    reader.feed chunks.flatten =
      ((reader.feedChunks chunks).1, (reader.feedChunks chunks).2.flatten) := by
  induction chunks generalizing reader with
  | nil => simp [feed, feedChunks]
  | cons chunk chunks ih => simp [feedChunks, feed_append, ih]

/-- A reader that has read some units and nothing else. -/
def behind (past : List KeyUnit) : KeyReader :=
  { line := lineOf past }

theorem behind_concat_of_none {past : List KeyUnit} {unit : KeyUnit}
    (inside : unit.endsLine = false) (adds : unit.typed? = none) :
    behind (past ++ [unit]) = behind past := by
  rw [behind, lineOf_concat_of_none inside adds, behind]

/-- A byte on its own that does not end a line is typed. -/
theorem type_behind (past : List KeyUnit) {byte : UInt8} (plain : byte ≠ 27 ∧ byte ≠ 255)
    (inside : (single byte plain).endsLine = false) :
    (behind past).type byte = behind (past ++ [.single byte plain]) := by
  cases typable : isTypable byte with
  | false =>
      have adds : (single byte plain).typed? = none := by simp [typed?_single, typable]
      simp [type, typable, behind_concat_of_none inside adds]
  | true =>
      have adds : (single byte plain).typed? = some (Char.ofNat byte.toNat) := by
        simp [typed?_single, typable]
      by_cases room : (lineOf past).length < 64
      · simp [type, behind, typable, lineOf_concat_of_some inside adds, maxLineLength, room]
      · simp [type, behind, typable, lineOf_concat_of_some inside adds, maxLineLength, room]

/-- A unit takes the reader from what it knows of the units before to what it knows with it. -/
theorem feed_bytes (past : List KeyUnit) (unit : KeyUnit) :
    (behind past).feed unit.bytes = (behind (past ++ [unit]), (unit.direction? past).toList) := by
  cases unit with
  | arrow opener last opens =>
      rw [behind_concat_of_none rfl rfl]
      rcases opens with rfl | rfl
      · simp [behind, feed, step, bytes, direction?]
      · simp [behind, feed, step, bytes, direction?]
  | escape other closed =>
      rw [behind_concat_of_none rfl rfl]
      simp [behind, feed, step, bytes, direction?, closed]
  | setting verb option takes =>
      rw [behind_concat_of_none rfl rfl]
      simp [behind, feed, step, bytes, direction?, takesOption, takes]
  | command verb bare =>
      rw [behind_concat_of_none rfl rfl]
      simp [behind, feed, step, bytes, direction?, takesOption, bare]
  | single byte plain =>
      cases ends : (single byte plain).endsLine with
      | true =>
          have ended : Menu.endsLine byte = true := endsLine_single byte plain ▸ ends
          have line_eq : commandOfLine (lineOf past) = spelled? (lineOf past) :=
            commandOfLine_eq fun c => isBlank_of_mem_lineOf
          simp [behind, feed, step, bytes, direction?, plain, ends, ended,
            lineOf_concat_of_endsLine ends, line_eq]
      | false =>
          have inside : Menu.endsLine byte = false := endsLine_single byte plain ▸ ends
          have typed := type_behind past plain ends
          simp only [behind] at typed
          simp [behind, feed, step, bytes, direction?, plain, ends, inside, typed]

theorem feed_units (past units : List KeyUnit) :
    (behind past).feed (units.flatMap bytes) = (behind (past ++ units), directions past units) := by
  induction units generalizing past with
  | nil => simp [feed, directions]
  | cons unit units ih => simp [feed_append, feed_bytes, ih, directions]

/-- An incomplete unit stands for nothing. -/
theorem feed_incomplete (past : List KeyUnit) {rest : Bytes} (incomplete : IsIncomplete rest) :
    ((behind past).feed rest).2 = [] := by
  rcases isIncomplete_iff.mp incomplete with
    rfl | rfl | rfl | ⟨opener, opens, rfl⟩ | ⟨verb, takes, rfl⟩
  · rfl
  · rfl
  · rfl
  · simp [behind, feed, step, opens]
  · simp [behind, feed, step, takesOption, takes]

/-- However a stream is divided into chunks, the steps that are answered are those that the units of
the whole stream stand for. -/
theorem feedChunks_eq_directions (chunks : List Bytes) :
    ∃ units, (∀ other, IsCut chunks.flatten other ↔ other = units) ∧
      (({} : KeyReader).feedChunks chunks).2.flatten = directions [] units := by
  obtain ⟨rest, incomplete, split⟩ := isCut_cut chunks.flatten
  have answers_eq := congrArg Prod.snd ((behind []).feed_flatten chunks)
  refine ⟨cut chunks.flatten, fun other => isCut_iff, ?_⟩
  calc
    (({} : KeyReader).feedChunks chunks).2.flatten = ((behind []).feed chunks.flatten).2 :=
      answers_eq.symm
    _ = directions [] (cut chunks.flatten) := by
      conv_lhs => rw [split, feed_append, feed_units]
      simp [feed_incomplete _ incomplete]

/-- An arrow and a telnet command in the middle of a typed line, all of them divided. -/
example :
    (({} : KeyReader).feedChunks
        [[117, 27], [91], [66, 255], [253], [1, 112, 32, 27], [79, 13, 13]]).2 =
      [[], [], [.down], [], [], [.up]] := by
  decide

end KeyReader
end Menu
end AudioMulticast
