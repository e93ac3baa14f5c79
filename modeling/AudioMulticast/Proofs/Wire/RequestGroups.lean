import AudioMulticast.Listening.Config
import AudioMulticast.Proofs.Wire.ControlMessageText
import AudioMulticast.Proofs.Wire.Sending
import Mathlib.Data.List.Nodup

/-!
# Requests for many packets

The ids of the packets that a receiver asks for are split into groups, and each group is sent as a
request of its own.  The groups arrive as they were sent, all but the last one are full, and a request
has no more bytes than so many of the longest ids take.
-/

namespace AudioMulticast

open Text

/-! ## Groups -/

section Groups

variable {α : Type} {size : Nat} {items group : List α}

theorem inGroups_eq_nil_iff : inGroups size items = [] ↔ items = [] := by
  constructor
  · intro none
    rw [← flatten_inGroups size items, none, List.flatten_nil]
  · intro none
    rw [none, inGroups]

/-- A group has at least one item, and no more than are allowed. -/
theorem length_of_mem_inGroups (positive : 0 < size) (member : group ∈ inGroups size items) :
    1 ≤ group.length ∧ group.length ≤ size := by
  fun_induction inGroups size items with
  | case1 => cases member
  | case2 first rest ih =>
      cases List.mem_cons.mp member with
      | inl head =>
          rw [head, List.length_cons, List.length_take]
          omega
      | inr later => exact ih later

/-- Only the last group can have fewer items than are allowed. -/
theorem length_of_mem_dropLast_inGroups (positive : 0 < size)
    (member : group ∈ (inGroups size items).dropLast) : group.length = size := by
  fun_induction inGroups size items with
  | case1 => cases member
  | case2 first rest ih =>
      by_cases last : inGroups size (rest.drop (size - 1)) = []
      · rw [last, List.dropLast_singleton] at member
        cases member
      · rw [List.dropLast_cons_of_ne_nil last] at member
        cases List.mem_cons.mp member with
        | inl head =>
            rw [inGroups_eq_nil_iff, List.drop_eq_nil_iff] at last
            rw [head, List.length_cons, List.length_take]
            omega
        | inr later => exact ih later

end Groups

/-! ## Lengths -/

theorem Text.Decimal.length_digits_le (word : Word) : (digits word.val).length ≤ 20 := by
  have below : word.val < 10 ^ 20 := word.isLt.trans (by decide)
  exact Nat.toDigits_length 10 word.val 20 (by decide) below

/-- A text of ASCII characters has as many bytes as characters. -/
theorem Bytes.length_ofText {text : List Char} (ascii : ∀ c ∈ text, c.toNat < 128) :
    (ofText text).length = text.length := by
  rw [ofText_eq_flatMap]
  induction text with
  | nil => rfl
  | cons c text ih =>
      rw [List.forall_mem_cons] at ascii
      have single : c.utf8Size = 1 :=
        Char.utf8Size_eq_one_iff.mpr (UInt32.le_iff_toNat_le.mpr (Nat.le_of_lt_succ ascii.1))
      rw [List.flatMap_cons, List.length_append, String.length_utf8EncodeChar, single, ih ascii.2,
        List.length_cons, Nat.add_comm]

/-- Joined parts take one character more than the parts themselves, apart from the last one. -/
theorem length_intercalate_le {parts : List (List Char)} {bound : Nat} (nonempty : parts ≠ [])
    (short : ∀ part ∈ parts, part.length ≤ bound) :
    ([','].intercalate parts).length + 1 ≤ (bound + 1) * parts.length := by
  induction parts with
  | nil => exact absurd rfl nonempty
  | cons part parts ih =>
      rw [List.forall_mem_cons] at short
      cases parts with
      | nil => simpa using short.1
      | cons next parts =>
          have rest := ih (List.cons_ne_nil next parts) short.2
          rw [List.intercalate_cons_cons, List.length_append, List.length_append,
            List.length_singleton, List.length_cons, Nat.mul_succ]
          omega

namespace ControlMessage

variable {ids : List PacketId} {size : Nat}

theorem line_request (ids : List PacketId) :
    line (.request ids) =
      ControlMessageKind.request.keyword ++
        ' ' :: [','].intercalate (ids.map fun id => Decimal.digits id.val) ++ ['\n'] :=
  rfl

theorem keyword_request_ascii : ∀ c ∈ ControlMessageKind.request.keyword, c.toNat < 128 := by
  have tested : (ControlMessageKind.request.keyword.all fun c => c.toNat < 128) = true := by decide
  intro c member
  simpa using List.all_eq_true.mp tested c member

/-- A request is written in ASCII characters. -/
theorem line_request_ascii (ids : List PacketId) : ∀ c ∈ line (.request ids), c.toNat < 128 := by
  have digits_ascii : ∀ entry ∈ ids.map fun id => Decimal.digits id.val,
      ∀ c ∈ entry, c.toNat < 128 := by
    intro entry member c inside
    obtain ⟨id, -, rfl⟩ := List.mem_map.mp member
    have digit := Char.isDigit_iff_toNat.mp (Decimal.isDigit_of_mem_digits inside)
    exact digit.2.trans_lt (by decide)
  have comma_ascii : ∀ c ∈ [','], c.toNat < 128 := List.forall_mem_singleton.mpr (by decide)
  have entries_ascii := forall_mem_intercalate comma_ascii digits_ascii
  simp only [line_request, List.forall_mem_append, List.forall_mem_cons]
  exact ⟨⟨keyword_request_ascii, by decide, entries_ascii⟩, by decide, by simp⟩

/-- The keyword and the blank behind it take 14 characters, and every id takes 20 digits at most and
the comma or the line end behind it. -/
theorem length_line_request_le (nonempty : ids ≠ []) :
    (line (.request ids)).length ≤ 14 + 21 * ids.length := by
  have short : ∀ entry ∈ ids.map fun id => Decimal.digits id.val, entry.length ≤ 20 := by
    intro entry member
    obtain ⟨id, -, rfl⟩ := List.mem_map.mp member
    exact Decimal.length_digits_le id
  have joined := length_intercalate_le (mt List.map_eq_nil_iff.mp nonempty) short
  rw [List.length_map] at joined
  have keyword_length : ControlMessageKind.request.keyword.length = 13 := by decide
  rw [line_request, List.length_append, List.length_append, List.length_cons, List.length_singleton]
  omega

theorem length_encode_request (nonempty : ids ≠ []) :
    (encode (.request ids)).length ≤ 14 + 21 * ids.length := by
  rw [encode, Bytes.length_ofText (line_request_ascii ids)]
  exact length_line_request_le nonempty

/-! ## Requests -/

/-- Number of bytes that an Ethernet frame carries. -/
def frameCapacity : Nat := 1500

/-- Number of bytes that go before a datagram in a frame: 20 of an IP header and 8 of a UDP header. -/
def datagramOverhead : Nat := 28

/-- What is guaranteed about ids that are sent in requests, and the groups in which they arrive. -/
structure ArriveIn (ids : List PacketId) (size : Nat) (groups : List (List PacketId)) : Prop where
  /-- Every request is read as a request for the ids of a group. -/
  read_eq : (requests ids size).map (fun message => decode message.encode) =
    groups.map fun group => .ok (.request group)
  /-- Together the groups are the ids, in order. -/
  flatten_eq : groups.flatten = ids
  /-- Every id arrives once. -/
  count_eq : ∀ id ∈ ids, groups.flatten.count id = 1
  /-- No request is empty, and none is for more ids than are allowed. -/
  length_le : ∀ group ∈ groups, 1 ≤ group.length ∧ group.length ≤ size
  /-- Only the last request can be for fewer ids than are allowed. -/
  length_eq : ∀ group ∈ groups.dropLast, group.length = size
  /-- The bytes of every request are bounded. -/
  encoded_le : ∀ message ∈ requests ids size, message.encode.length ≤ 14 + 21 * size
  /-- Unless more ids are allowed than by default, a request fits into a frame. -/
  framed : size ≤ ({} : Listening.Config).maxRequestIds →
    ∀ message ∈ requests ids size, datagramOverhead + message.encode.length ≤ frameCapacity

theorem map_decode_requests (ids : List PacketId) (size : Nat) :
    (requests ids size).map (fun message => decode message.encode) =
      (inGroups size ids).map fun group => .ok (.request group) := by
  rw [requests, List.map_map]
  apply List.map_congr_left
  intro group member
  exact decode_encode_request group

theorem length_encode_of_mem_requests (positive : 0 < size) {message : ControlMessage}
    (member : message ∈ requests ids size) : message.encode.length ≤ 14 + 21 * size := by
  obtain ⟨group, group_mem, rfl⟩ := List.mem_map.mp member
  obtain ⟨nonempty, short⟩ := length_of_mem_inGroups positive group_mem
  calc
    (encode (.request group)).length ≤ 14 + 21 * group.length :=
      length_encode_request (List.ne_nil_of_length_pos nonempty)
    _ ≤ 14 + 21 * size := by omega

/-- Whatever ids are asked for, all of them arrive in order, in requests of which only the last one
can have room left and none is too long. -/
theorem arriveIn_inGroups (ascending : ids.Pairwise (· < ·)) (positive : 0 < size) :
    ArriveIn ids size (inGroups size ids) := by
  have encoded_le : ∀ message ∈ requests ids size, message.encode.length ≤ 14 + 21 * size :=
    fun message member => length_encode_of_mem_requests positive member
  constructor
  · exact map_decode_requests ids size
  · exact flatten_inGroups size ids
  · intro id member
    rw [flatten_inGroups]
    exact List.count_eq_one_of_mem (ascending.imp Fin.ne_of_lt) member
  · exact fun group member => length_of_mem_inGroups positive member
  · exact fun group member => length_of_mem_dropLast_inGroups positive member
  · exact encoded_le
  · intro few message member
    calc
      datagramOverhead + message.encode.length ≤ datagramOverhead + (14 + 21 * size) :=
        Nat.add_le_add_left (encoded_le message member) _
      _ ≤ datagramOverhead + (14 + 21 * 64) := by
        apply Nat.add_le_add_left
        exact Nat.add_le_add_left (Nat.mul_le_mul_left 21 few) 14
      _ ≤ frameCapacity := by decide

/-- Ids of few and of many digits. -/
def scatteredIds : List PacketId :=
  [0, 9, 10, 18446744073709551614, 18446744073709551615]

theorem arriveIn_inGroups_of_scatteredIds :
    scatteredIds.Pairwise (· < ·) ∧ 0 < 2 ∧
      ArriveIn scatteredIds 2 [[0, 9], [10, 18446744073709551614], [18446744073709551615]] := by
  have ascending : scatteredIds.Pairwise (· < ·) := by decide
  have grouped : inGroups 2 scatteredIds =
      [[0, 9], [10, 18446744073709551614], [18446744073709551615]] := by
    simp [scatteredIds, inGroups]
  have arrive := arriveIn_inGroups ascending Nat.zero_lt_two
  rw [grouped] at arrive
  exact ⟨ascending, Nat.zero_lt_two, arrive⟩

end ControlMessage
end AudioMulticast
