import AudioMulticast.Broadcast.Config
import AudioMulticast.Proofs.Text.Words
import AudioMulticast.Proofs.Wire.ReadBack
import AudioMulticast.Wire.ControlMessage.Reader

/-!
# Control messages that are read back

Lookups and requests are read as they were written.  A reply is read with the white space of its
name put in order, so the name of a station arrives unchanged exactly if its words stand single
blanks apart.
-/

namespace AudioMulticast

open Text

theorem isBlank_of_isDigit {c : Char} (digit : c.isDigit = true) : isBlank c = false := by
  simp only [Char.isDigit, Bool.and_eq_true, decide_eq_true_eq, ge_iff_le,
    UInt32.le_iff_toNat_le] at digit
  have low : 48 ≤ c.toNat := digit.1
  have high : c.toNat ≤ 57 := digit.2
  simp [isBlank]
  omega

namespace Text.Decimal

theorem isWord_digits (value : Nat) : IsWord (digits value) where
  nonempty := Nat.toDigits_ne_nil
  solid := fun _ member => isBlank_of_isDigit (isDigit_of_mem_digits member)

end Text.Decimal

namespace Port

theorem ofText?_digits (port : Port) : ofText? (Decimal.digits port.toNat) = some port := by
  rw [ofText?, Decimal.ofText?_digits port.toNat_lt, Option.map_some, UInt16.ofNat_toNat]

end Port

namespace Address

theorem octet?_digits (octet : UInt8) : octet? (Decimal.digits octet.toNat) = some octet := by
  simp [octet?, Decimal.ofDigits?_digits, octet.toNat_lt]

theorem isWord_render (address : Address) : IsWord address.render where
  nonempty := by
    simp [render, octets]
  solid := by
    refine forall_mem_intercalate (List.forall_mem_singleton.mpr (by decide)) fun part member => ?_
    obtain ⟨octet, -, rfl⟩ := List.mem_map.mp member
    exact (Decimal.isWord_digits octet.toNat).solid

theorem ofText?_render (address : Address) : ofText? address.render = some address := by
  have undotted : ∀ part ∈ address.octets.map fun octet => Decimal.digits octet.toNat, '.' ∉ part := by
    intro part member
    obtain ⟨octet, -, rfl⟩ := List.mem_map.mp member
    intro dotted
    exact absurd (Decimal.isDigit_of_mem_digits dotted) (by decide)
  rw [ofText?, render, List.splitOn_intercalate '.' undotted (by simp [octets])]
  simp [octets, octet?_digits]

end Address

namespace ControlMessageKind

/-- The first letter of the keyword. -/
def initial : ControlMessageKind → Char
  | .lookup => 'Z'
  | .reply => 'B'
  | .request => 'L'

theorem exists_keyword_eq (kind : ControlMessageKind) :
    ∃ tail, kind.keyword = kind.initial :: tail := by
  cases kind with
  | lookup => exact ⟨_, rfl⟩
  | reply => exact ⟨_, rfl⟩
  | request => exact ⟨_, rfl⟩

theorem initial_ne {kind other : ControlMessageKind} (different : kind ≠ other) :
    kind.initial ≠ other.initial := by
  cases kind <;> cases other <;> simp_all [initial]

end ControlMessageKind

namespace ControlMessage

variable {keyword rest : List Char} {ids : List PacketId}

theorem isBlank_of_isLineEnd {c : Char} (ends : isLineEnd c = true) : isBlank c = true := by
  simp only [isLineEnd, Bool.or_eq_true, beq_iff_eq] at ends
  rcases ends with rfl | rfl <;> decide

theorem afterKeyword_append (keyword rest : List Char) :
    afterKeyword keyword (keyword ++ ' ' :: rest) = some (trimStart rest) := by
  simp [afterKeyword]

theorem readId?_digits (id : PacketId) : readId? (Decimal.digits id.val) = some id := by
  rw [readId?, trim_of_solid (Decimal.isWord_digits id.val).solid, Decimal.ofText?_digits id.isLt,
    Option.bind_some, Word.ofNat?_val]

/-- Keywords are told apart by their initials. -/
theorem afterKeyword_eq_none {kind other : ControlMessageKind} (different : kind ≠ other)
    (rest : List Char) : afterKeyword kind.keyword (other.keyword ++ rest) = none := by
  obtain ⟨tail, kind_eq⟩ := kind.exists_keyword_eq
  obtain ⟨tail', other_eq⟩ := other.exists_keyword_eq
  simp [afterKeyword, kind_eq, other_eq, ControlMessageKind.initial_ne different]

theorem ofLine_lookup : ofLine ControlMessageKind.lookup.keyword = .ok .lookup := by
  simp [ofLine, afterKeyword]

theorem ofLine_reply (rest : List Char) :
    ofLine (ControlMessageKind.reply.keyword ++ ' ' :: rest) =
      match readReply? (trimStart rest) with
      | some found => .ok (.reply found)
      | none => .error (.malformedReply (String.ofList (trimStart rest))) := by
  have lookup : afterKeyword ControlMessageKind.lookup.keyword
      (ControlMessageKind.reply.keyword ++ ' ' :: rest) = none :=
    afterKeyword_eq_none (by decide) _
  simp only [ofLine, lookup, afterKeyword_append]
  rfl

theorem ofLine_request (rest : List Char) :
    ofLine (ControlMessageKind.request.keyword ++ ' ' :: rest) =
      .ok (.request (readIds (trimStart rest))) := by
  have lookup : afterKeyword ControlMessageKind.lookup.keyword
      (ControlMessageKind.request.keyword ++ ' ' :: rest) = none :=
    afterKeyword_eq_none (by decide) _
  have reply : afterKeyword ControlMessageKind.reply.keyword
      (ControlMessageKind.request.keyword ++ ' ' :: rest) = none :=
    afterKeyword_eq_none (by decide) _
  simp only [ofLine, lookup, reply, afterKeyword_append]
  rfl

theorem decode_ofText (text : List Char) :
    decode (Bytes.ofText text) = ofLine (dropEndWhile isLineEnd text) := by
  simp only [decode, Bytes.toText?_ofText]

theorem decode_encode (message : ControlMessage) :
    decode message.encode = ofLine (dropEndWhile isLineEnd message.render) := by
  rw [encode, decode_ofText, line,
    dropEndWhile_append_of_all (List.forall_mem_singleton.mpr (by decide))]

theorem decode_encode_lookup : decode (encode .lookup) = .ok .lookup := by
  have unended : dropEndWhile isLineEnd (render .lookup) = ControlMessageKind.lookup.keyword := by
    decide +kernel
  rw [decode_encode, unended, ofLine_lookup]

/-! ## Entries of a request -/

theorem comma_not_mem_of_blank {text : List Char} (blank : ∀ c ∈ text, isBlank c = true) :
    ',' ∉ text := by
  intro comma
  exact absurd (blank ',' comma) (by decide)

/-- White space around an entry does not change what it stands for. -/
theorem readId?_pad {front entry back : List Char} (front_blank : ∀ c ∈ front, isBlank c = true)
    (back_blank : ∀ c ∈ back, isBlank c = true) :
    readId? (front ++ entry ++ back) = readId? entry := by
  rw [readId?, trim_pad front_blank back_blank, ← readId?]

theorem readIds_of_uncut {entry : List Char} (uncut : ',' ∉ entry) :
    readIds entry = (readId? entry).toList := by
  have split : entry.splitOn ',' = [entry] := by
    simpa using List.splitOn_intercalate ',' (List.forall_mem_singleton.mpr uncut) (by simp)
  simp [readIds, split, List.filterMap_eq_flatMap_toList]

/-- A comma parts the entries before it from the entries after it. -/
theorem readIds_append_comma (front back : List Char) :
    readIds (front ++ ',' :: back) = readIds front ++ readIds back := by
  simp only [readIds, List.splitOn_eq_splitOnP]
  rw [List.splitOnP_append_cons front back (by simp), List.filterMap_append]

/-- The ids of joined entries are read from one entry after another, whatever white space there is at
the ends. -/
theorem readIds_intercalate {front back : List Char} {entries : List (List Char)}
    (uncut : ∀ entry ∈ entries, ',' ∉ entry) (front_blank : ∀ c ∈ front, isBlank c = true)
    (back_blank : ∀ c ∈ back, isBlank c = true) :
    readIds (front ++ [','].intercalate entries ++ back) = entries.filterMap readId? := by
  have front_uncut := comma_not_mem_of_blank front_blank
  have back_uncut := comma_not_mem_of_blank back_blank
  rw [List.filterMap_eq_flatMap_toList]
  induction entries generalizing front with
  | nil =>
      have empty : readId? ([','].intercalate []) = none := by decide +kernel
      rw [readIds_of_uncut (by simp [front_uncut, back_uncut]), readId?_pad front_blank back_blank,
        empty]
      rfl
  | cons entry entries ih =>
      rw [List.forall_mem_cons] at uncut
      cases entries with
      | nil =>
          rw [List.intercalate_singleton,
            readIds_of_uncut (by simp [uncut.1, front_uncut, back_uncut]),
            readId?_pad front_blank back_blank]
          simp
      | cons next entries =>
          have parted :
              front ++ [','].intercalate (entry :: next :: entries) ++ back =
                (front ++ entry ++ []) ++ ',' :: ([] ++ [','].intercalate (next :: entries) ++ back) := by
            simp [List.intercalate_cons_cons]
          rw [parted, readIds_append_comma, ih uncut.2 (by simp) (by simp),
            readIds_of_uncut (by simp [uncut.1, front_uncut]), readId?_pad front_blank (by simp)]
          rfl

theorem readIds_pad {front text back : List Char} (front_blank : ∀ c ∈ front, isBlank c = true)
    (back_blank : ∀ c ∈ back, isBlank c = true) :
    readIds (front ++ text ++ back) = readIds text := by
  have uncut : ∀ entry ∈ text.splitOn ',', ',' ∉ entry := by
    intro entry member comma
    rw [List.splitOn_eq_splitOnP] at member
    exact absurd (solid_of_mem_splitOnP member ',' comma) (by simp)
  have joined := readIds_intercalate uncut front_blank back_blank
  rwa [List.intercalate_splitOn, ← readIds] at joined

/-- What is cut off a request at its ends holds no entries. -/
theorem readIds_trimStart_dropEndWhile (text : List Char) :
    readIds (trimStart (dropEndWhile isLineEnd text)) = readIds text := by
  obtain ⟨back, ended, text_eq⟩ := exists_eq_dropEndWhile_append isLineEnd text
  have kept_eq : (dropEndWhile isLineEnd text).takeWhile isBlank ++
      trimStart (dropEndWhile isLineEnd text) = dropEndWhile isLineEnd text :=
    List.takeWhile_append_dropWhile
  conv_rhs => rw [text_eq, ← kept_eq]
  exact (readIds_pad (fun c member => List.mem_takeWhile_imp member)
    fun c member => isBlank_of_isLineEnd (ended c member)).symm

/-- A request for joined entries is for the ids of those that stand for one. -/
theorem decode_entries {entries : List (List Char)} {ends : List Char}
    (uncut : ∀ entry ∈ entries, ',' ∉ entry) (ended : ∀ c ∈ ends, isLineEnd c = true) :
    decode (Bytes.ofText
        (ControlMessageKind.request.keyword ++ ' ' :: [','].intercalate entries ++ ends)) =
      .ok (.request (entries.filterMap readId?)) := by
  have kept : ∃ c ∈ ' ' :: [','].intercalate entries, isLineEnd c = false :=
    ⟨' ', List.mem_cons_self, by decide⟩
  have joined : readIds ([','].intercalate entries) = entries.filterMap readId? := by
    simpa using @readIds_intercalate [] [] entries uncut (by simp) (by simp)
  rw [decode_ofText, dropEndWhile_append_of_all ended, dropEndWhile_append kept,
    dropEndWhile_cons (by decide), ofLine_request, readIds_trimStart_dropEndWhile, joined]

/-- A request arrives unchanged, whatever packets it is for. -/
theorem decode_encode_request (ids : List PacketId) :
    decode (encode (.request ids)) = .ok (.request ids) := by
  have uncut : ∀ entry ∈ ids.map fun id => Decimal.digits id.val, ',' ∉ entry := by
    intro entry member comma
    obtain ⟨id, -, rfl⟩ := List.mem_map.mp member
    exact absurd (Decimal.isDigit_of_mem_digits comma) (by decide)
  have read : (readId? ∘ fun id : PacketId => Decimal.digits id.val) = some :=
    funext readId?_digits
  have decoded := decode_entries uncut (List.forall_mem_singleton.mpr (by decide : isLineEnd '\n'))
  rwa [List.filterMap_map, read, List.filterMap_some] at decoded

/-! ## Replies -/

theorem words_content (sent : Reply) :
    words (content (.reply sent)) =
      sent.address.render :: Decimal.digits sent.port.toNat :: words sent.name.toList := by
  have blank : isBlank ' ' = true := by decide
  simp only [content, List.cons_append, List.append_assoc]
  rw [words_cons blank, words_append_cons blank, words_append_cons blank,
    words_of_isWord sent.address.isWord_render, words_of_isWord (Decimal.isWord_digits _)]
  rfl

/-- A reply arrives with the words of its name single blanks apart. -/
theorem decode_encode_reply {sent : Reply} (named : words sent.name.toList ≠ []) :
    decode (encode (.reply sent)) =
      .ok (.reply { sent with name := String.ofList (unwords (words sent.name.toList)) }) := by
  obtain ⟨first, more, words_eq⟩ := List.exists_cons_of_ne_nil named
  obtain ⟨rest, content_eq⟩ : ∃ rest, content (.reply sent) = ' ' :: rest := ⟨_, rfl⟩
  have kept : ∃ c ∈ content (.reply sent), isLineEnd c = false := by
    rw [content_eq]
    exact ⟨' ', List.mem_cons_self, by decide⟩
  have words_rest : words (trimStart (dropEndWhile isLineEnd rest)) =
      sent.address.render :: Decimal.digits sent.port.toNat :: first :: more := by
    rw [words_trimStart, words_dropEndWhile @isBlank_of_isLineEnd, ← words_eq, ← words_content,
      content_eq, words_cons (by decide)]
  have read : readReply? (trimStart (dropEndWhile isLineEnd rest)) =
      some { sent with name := String.ofList (unwords (first :: more)) } := by
    simp [readReply?, words_rest, Address.ofText?_render, Port.ofText?_digits]
  rw [decode_encode, render, dropEndWhile_append kept, content_eq, dropEndWhile_cons (by decide),
    kind, ofLine_reply, words_eq]
  simp only [read]

end ControlMessage
end AudioMulticast
