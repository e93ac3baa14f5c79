import AudioMulticast.Proofs.Wire.ControlMessageText
import Mathlib.Data.Nat.Digits.Defs

/-!
# Entries of retransmission requests

The entries of a request stand between commas.  An entry that is a numeral stands for an id, whatever
white space there is around it, and all other entries are passed over, so that they do not disturb the
request.
-/

namespace AudioMulticast

open Text

namespace Text.Decimal

/-- One or more ASCII digits, and the number that they stand for in base ten. -/
structure IsNumeral (numeral : List Char) (value : Nat) : Prop where
  nonempty : numeral ≠ []
  isDigit : ∀ c ∈ numeral, c.isDigit = true
  value_eq : value = Nat.ofDigits 10 (numeral.reverse.map fun c => c.toNat - '0'.toNat)

variable {text : List Char} {value limit : Nat}

theorem ofDigitChars_eq_ofDigits (text : List Char) :
    Nat.ofDigitChars 10 text 0 =
      Nat.ofDigits 10 (text.reverse.map fun c => c.toNat - '0'.toNat) := by
  induction text using List.reverseRecOn with
  | nil => rfl
  | append_singleton front c ih =>
      simp [Nat.ofDigitChars_append, Nat.ofDigitChars_cons, Nat.ofDigits_cons, ih, Nat.add_comm]

theorem ofDigits?_eq_some_iff : ofDigits? text = some value ↔ IsNumeral text value := by
  rw [ofDigits?, ofDigitChars_eq_ofDigits]
  constructor
  · intro read
    split at read
    · rename_i numeral
      cases read
      exact ⟨numeral.1, List.all_eq_true.mp numeral.2, rfl⟩
    · cases read
  · intro numeral
    rw [if_pos ⟨numeral.nonempty, List.all_eq_true.mpr numeral.isDigit⟩, numeral.value_eq]

/-- What is read is a numeral, perhaps behind a plus sign. -/
theorem ofText?_eq_some_iff :
    ofText? limit text = some value ↔
      ∃ sign numeral, (sign = [] ∨ sign = ['+']) ∧ text = sign ++ numeral ∧
        IsNumeral numeral value ∧ value < limit := by
  rw [ofText?, Option.filter_eq_some_iff, ofDigits?_eq_some_iff, decide_eq_true_eq]
  constructor
  · rintro ⟨numeral, below⟩
    unfold dropPlus at numeral
    split at numeral
    · exact ⟨['+'], _, .inr rfl, rfl, numeral, below⟩
    · exact ⟨[], _, .inl rfl, rfl, numeral, below⟩
  · rintro ⟨sign, rest, sign_eq, text_eq, numeral, below⟩
    refine ⟨?_, below⟩
    cases sign_eq with
    | inl absent =>
        rwa [text_eq, absent, List.nil_append, dropPlus_of_isDigit numeral.isDigit]
    | inr plus =>
        rw [text_eq, plus]
        exact numeral

end Text.Decimal

namespace ControlMessage

/-- Whether an entry stands for an id: it is a numeral for the id, perhaps behind a plus sign, with any
white space around. -/
def StandsFor (entry : List Char) (id : PacketId) : Prop :=
  ∃ front sign numeral back,
    (∀ c ∈ front, isBlank c = true) ∧ (sign = [] ∨ sign = ['+']) ∧
      Decimal.IsNumeral numeral id.val ∧ (∀ c ∈ back, isBlank c = true) ∧
      entry = front ++ (sign ++ numeral) ++ back

/-- The ids that entries stand for, in order.  Entries that stand for no id are passed over. -/
inductive IdsOf : List (List Char) → List PacketId → Prop where
  | nil : IdsOf [] []
  | id {entry entries id ids} (stands : StandsFor entry id) (rest : IdsOf entries ids) :
      IdsOf (entry :: entries) (id :: ids)
  | garbage {entry entries ids} (none : ∀ id, ¬StandsFor entry id) (rest : IdsOf entries ids) :
      IdsOf (entry :: entries) ids

/-- The text of a request with the given entries, and with line ends behind them. -/
def requestText (entries : List (List Char)) (ends : List Char) : List Char :=
  "LOUDER_PLEASE".toList ++ ' ' :: [','].intercalate entries ++ ends

variable {entry ends : List Char} {entries : List (List Char)} {id : PacketId} {ids : List PacketId}

theorem readId?_eq_some_iff : readId? entry = some id ↔ StandsFor entry id := by
  constructor
  · intro read
    obtain ⟨front, back, front_blank, back_blank, entry_eq⟩ := exists_eq_append_trim entry
    obtain ⟨value, found, id_eq⟩ := Option.bind_eq_some_iff.mp read
    obtain ⟨sign, numeral, sign_eq, trimmed, isNumeral, -⟩ := Decimal.ofText?_eq_some_iff.mp found
    rw [← Word.ofNat?_eq_some_iff.mp id_eq] at isNumeral
    rw [trimmed] at entry_eq
    exact ⟨front, sign, numeral, back, front_blank, sign_eq, isNumeral, back_blank, entry_eq⟩
  · rintro ⟨front, sign, numeral, back, front_blank, sign_eq, isNumeral, back_blank, entry_eq⟩
    have sign_solid : ∀ c ∈ sign, isBlank c = false := by
      cases sign_eq with
      | inl absent => simp [absent]
      | inr plus =>
          rw [plus]
          exact List.forall_mem_singleton.mpr (by decide)
    have solid : ∀ c ∈ sign ++ numeral, isBlank c = false := by
      rw [List.forall_mem_append]
      exact ⟨sign_solid, fun c member => isBlank_of_isDigit (isNumeral.isDigit c member)⟩
    have found : Decimal.ofText? Word.count (sign ++ numeral) = some id.val :=
      Decimal.ofText?_eq_some_iff.mpr ⟨sign, numeral, sign_eq, rfl, isNumeral, id.isLt⟩
    rw [entry_eq, readId?_pad front_blank back_blank, readId?, trim_of_solid solid, found,
      Option.bind_some, Word.ofNat?_val]

theorem readId?_eq_none_iff : readId? entry = none ↔ ∀ id, ¬StandsFor entry id := by
  simp [Option.eq_none_iff_forall_ne_some, readId?_eq_some_iff]

/-- Which ids entries stand for is decided by the entries one after another. -/
theorem idsOf_iff : IdsOf entries ids ↔ ids = entries.filterMap readId? := by
  constructor
  · intro idsOf
    induction idsOf with
    | nil => rfl
    | id stands rest ih => rw [List.filterMap_cons_some (readId?_eq_some_iff.mpr stands), ih]
    | garbage none rest ih => rw [List.filterMap_cons_none (readId?_eq_none_iff.mpr none), ih]
  · intro ids_eq
    induction entries generalizing ids with
    | nil =>
        rw [ids_eq]
        exact .nil
    | cons entry entries ih =>
        cases read : readId? entry with
        | none =>
            rw [List.filterMap_cons_none read] at ids_eq
            exact .garbage (readId?_eq_none_iff.mp read) (ih ids_eq)
        | some id =>
            rw [List.filterMap_cons_some read] at ids_eq
            rw [ids_eq]
            exact .id (readId?_eq_some_iff.mp read) (ih rfl)

/-- Entries that stand for no id make no difference. -/
theorem filterMap_readId?_of_garbage {front garbage back : List (List Char)}
    (none : ∀ entry ∈ garbage, ∀ id, ¬StandsFor entry id) :
    (front ++ garbage ++ back).filterMap readId? = (front ++ back).filterMap readId? := by
  have nothing : garbage.filterMap readId? = [] := by
    rw [List.filterMap_eq_nil_iff]
    intro entry member
    exact readId?_eq_none_iff.mpr (none entry member)
  simp [nothing]

theorem decode_requestText (uncut : ∀ entry ∈ entries, ',' ∉ entry)
    (ended : ∀ c ∈ ends, c = '\r' ∨ c = '\n') :
    decode (Bytes.ofText (requestText entries ends)) =
      .ok (.request (entries.filterMap readId?)) := by
  have isLineEnd_ends : ∀ c ∈ ends, isLineEnd c = true := by
    intro c member
    simpa [isLineEnd] using ended c member
  have text_eq : requestText entries ends =
      ControlMessageKind.request.keyword ++ ' ' :: [','].intercalate entries ++ ends := rfl
  rw [text_eq, decode_entries uncut isLineEnd_ends]

/-- A request is for the ids that its entries stand for, in order.  Other entries do not disturb it:
with some of them left out, it is still for the same ids. -/
theorem decode_request_undisturbed (uncut : ∀ entry ∈ entries, ',' ∉ entry)
    (ended : ∀ c ∈ ends, c = '\r' ∨ c = '\n') :
    ∃ ids, decode (Bytes.ofText (requestText entries ends)) = .ok (.request ids) ∧
      (∀ others, IdsOf entries others ↔ others = ids) ∧
      ∀ front garbage back, entries = front ++ garbage ++ back →
        (∀ entry ∈ garbage, ∀ id, ¬StandsFor entry id) →
          decode (Bytes.ofText (requestText (front ++ back) ends)) = .ok (.request ids) := by
  refine ⟨entries.filterMap readId?, decode_requestText uncut ended, fun _ => idsOf_iff, ?_⟩
  intro front garbage back entries_eq none
  have uncut_rest : ∀ entry ∈ front ++ back, ',' ∉ entry := by
    intro entry member
    apply uncut entry
    rw [entries_eq]
    simp only [List.mem_append] at member ⊢
    tauto
  rw [decode_requestText uncut_rest ended, entries_eq, filterMap_readId?_of_garbage none]

/-- Entries of all kinds, among them the greatest id and the least number that is none, with white
space of all kinds around them and inside. -/
def mixedEntries : List (List Char) :=
  ["\u2003+007\t", "", "-2", " 18446744073709551615", "18446744073709551616", "1\n2", "+", "5\r"].map
    String.toList

theorem decode_request_undisturbed_of_mixedEntries :
    (∀ entry ∈ mixedEntries, ',' ∉ entry) ∧ (∀ c ∈ ['\n', '\r'], c = '\r' ∨ c = '\n') ∧
      decode (Bytes.ofText (requestText mixedEntries ['\n', '\r'])) =
        .ok (.request [7, 18446744073709551615, 5]) := by
  have uncut : ∀ entry ∈ mixedEntries, ',' ∉ entry := by decide +kernel
  have ended : ∀ c ∈ ['\n', '\r'], c = '\r' ∨ c = '\n' := by simp
  obtain ⟨ids, read, unique, -⟩ := decode_request_undisturbed uncut ended
  have idsOf : IdsOf mixedEntries [7, 18446744073709551615, 5] :=
    idsOf_iff.mpr (by decide +kernel)
  rw [(unique _).mp idsOf]
  exact ⟨uncut, ended, read⟩

end ControlMessage
end AudioMulticast
