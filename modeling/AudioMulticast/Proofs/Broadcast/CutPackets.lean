import AudioMulticast.Broadcast.History
import AudioMulticast.Broadcast.ResendQueue
import AudioMulticast.Proofs.Playback.JournalWindow

/-!
# Packets that are cut off an input

The packets of a sender are the pieces of its input, one after another.  The history always has the
last ones, as many as it has slots, and nothing but packets that were sent gets into the history or
into the queue.
-/

namespace AudioMulticast

/-- The packet with a number, of an input that is cut into packets of `length` bytes. -/
structure AudioPacket.IsPiece (packet : AudioPacket) (input : Bytes) (length number : Nat) :
    Prop where
  id_eq : packet.id.val = number * length
  payload_eq : packet.payload = (input.drop (number * length)).take length

namespace Broadcast

/-- Packets that are cut off the front of an input, each `length` bytes long. -/
structure CutFrom (input : Bytes) (length : Nat) (packets : List AudioPacket) : Prop where
  length_pos : 0 < length
  consumed_le : packets.length * length ≤ input.length
  isPiece : ∀ {number : Nat} {packet}, packets[number]? = some packet →
    packet.IsPiece input length number

variable {input : Bytes} {length number : Nat} {packets : List AudioPacket}
  {packet other : AudioPacket} {id : PacketId}

theorem getElem?_concat_cases (found : (packets ++ [packet])[number]? = some other) :
    packets[number]? = some other ∨ number = packets.length ∧ other = packet := by
  rcases Nat.lt_trichotomy number packets.length with inside | rfl | outside
  · rw [List.getElem?_append_left inside] at found
    exact .inl found
  · rw [List.getElem?_concat_length] at found
    exact .inr ⟨rfl, (Option.some_inj.mp found).symm⟩
  · rw [List.getElem?_eq_none (by rw [List.length_append]; exact outside)] at found
    cases found

theorem length_concat_mul (packets : List AudioPacket) (packet : AudioPacket) (length : Nat) :
    (packets ++ [packet]).length * length = packets.length * length + length := by
  rw [List.length_append, List.length_singleton, Nat.succ_mul]

namespace CutFrom

theorem nil (length_pos : 0 < length) : CutFrom [] length [] where
  length_pos := length_pos
  consumed_le := by simp
  isPiece := by simp

theorem end_le (cut : CutFrom input length packets) (found : packets[number]? = some packet) :
    number * length + length ≤ input.length := by
  obtain ⟨inside, -⟩ := List.getElem?_eq_some_iff.mp found
  calc
    number * length + length = (number + 1) * length := (Nat.succ_mul number length).symm
    _ ≤ packets.length * length := Nat.mul_le_mul_right length inside
    _ ≤ input.length := cut.consumed_le

theorem append (cut : CutFrom input length packets) (more : Bytes) :
    CutFrom (input ++ more) length packets where
  length_pos := cut.length_pos
  consumed_le := by
    rw [List.length_append]
    exact cut.consumed_le.trans (Nat.le_add_right _ _)
  isPiece := by
    intro number packet found
    have end_le := cut.end_le found
    refine ⟨(cut.isPiece found).id_eq, ?_⟩
    rw [(cut.isPiece found).payload_eq, List.drop_append_of_le_length (by omega),
      List.take_append_of_le_length (by rw [List.length_drop]; omega)]

theorem concat (cut : CutFrom input length packets)
    (isPiece : packet.IsPiece input length packets.length)
    (enough : packet.payload.length = length) : CutFrom input length (packets ++ [packet]) where
  length_pos := cut.length_pos
  consumed_le := by
    have length_pos := cut.length_pos
    have consumed_le := cut.consumed_le
    rw [isPiece.payload_eq, List.length_take, List.length_drop] at enough
    rw [length_concat_mul]
    omega
  isPiece := by
    intro number other found
    rcases getElem?_concat_cases found with former | ⟨rfl, rfl⟩
    · exact cut.isPiece former
    · exact isPiece

theorem payload_length (cut : CutFrom input length packets) (member : packet ∈ packets) :
    packet.payload.length = length := by
  obtain ⟨number, found⟩ := List.mem_iff_getElem?.mp member
  have end_le := cut.end_le found
  rw [(cut.isPiece found).payload_eq, List.length_take, List.length_drop]
  omega

/-- Packets are told apart by their ids. -/
theorem eq_of_id_eq (cut : CutFrom input length packets) (member : packet ∈ packets)
    (other_member : other ∈ packets) (id_eq : packet.id = other.id) : packet = other := by
  obtain ⟨number, found⟩ := List.mem_iff_getElem?.mp member
  obtain ⟨other_number, other_found⟩ := List.mem_iff_getElem?.mp other_member
  have same : number * length = other_number * length := by
    rw [← (cut.isPiece found).id_eq, ← (cut.isPiece other_found).id_eq, id_eq]
  obtain rfl := Nat.eq_of_mul_eq_mul_right cut.length_pos same
  exact Option.some_inj.mp (found.symm.trans other_found)

/-- An aligned id that is not above that of a packet is itself the id of a packet. -/
theorem exists_number (cut : CutFrom input length packets) (member : packet ∈ packets)
    (aligned : length ∣ id.val) (id_le : id.val ≤ packet.id.val) :
    ∃ number < packets.length, id.val = number * length := by
  obtain ⟨last, found⟩ := List.mem_iff_getElem?.mp member
  obtain ⟨inside, -⟩ := List.getElem?_eq_some_iff.mp found
  obtain ⟨number, id_eq⟩ := aligned
  rw [Nat.mul_comm] at id_eq
  rw [id_eq, (cut.isPiece found).id_eq] at id_le
  exact ⟨number, (Nat.le_of_mul_le_mul_right id_le cut.length_pos).trans_lt inside, id_eq⟩

end CutFrom

/-! ## The history -/

/-- The history has the last packets, and no others. -/
structure History.Keeps (history : History) (length : Nat) (packets : List AudioPacket) : Prop where
  capacity_pos : 0 < history.capacity
  payloadLength_eq : history.payloadLength = length
  kept : ∀ {number : Nat} {packet}, packets[number]? = some packet →
    packets.length ≤ number + history.capacity →
      history.slots[number % history.capacity]? = some packet
  mem_of_slot : ∀ {slot : Nat} {packet}, history.slots[slot]? = some packet → packet ∈ packets

namespace History

variable {history : History}

theorem keeps_new (capacity length : Nat) : (new capacity length).Keeps length [] where
  capacity_pos := Nat.lt_of_lt_of_le Nat.zero_lt_one (Nat.le_max_right capacity 1)
  payloadLength_eq := rfl
  kept := by simp
  mem_of_slot := by simp [new]

theorem Keeps.slot_eq (keeps : history.Keeps length packets) (length_pos : 0 < length)
    (isPiece : packet.IsPiece input length number) :
    history.slot packet.id = number % history.capacity := by
  rw [slot, PacketId.number, keeps.payloadLength_eq, isPiece.id_eq, Nat.max_eq_left length_pos,
    Nat.mul_div_cancel _ length_pos]

theorem Keeps.get?_eq (keeps : history.Keeps length packets) (cut : CutFrom input length packets)
    (found : packets[number]? = some packet)
    (recent : packets.length ≤ number + history.capacity) :
    history.get? packet.id = some packet := by
  have aligned : packet.id.isAligned history.payloadLength := by
    rw [keeps.payloadLength_eq, PacketId.isAligned_iff cut.length_pos, (cut.isPiece found).id_eq]
    exact Nat.dvd_mul_left length number
  rw [get?, if_pos aligned, keeps.slot_eq cut.length_pos (cut.isPiece found),
    keeps.kept found recent]
  simp

theorem Keeps.mem_of_get? (keeps : history.Keeps length packets)
    (found : history.get? id = some packet) : packet ∈ packets ∧ packet.id = id := by
  rw [get?] at found
  split_ifs at found
  obtain ⟨slot_eq, id_eq⟩ := Option.filter_eq_some_iff.mp found
  exact ⟨keeps.mem_of_slot slot_eq, of_decide_eq_true id_eq⟩

/-- Packets that are fewer numbers apart than there are slots are not in the same slot. -/
theorem slot_ne {capacity number last : Nat} (before : number < last)
    (near : last < number + capacity) : last % capacity ≠ number % capacity := by
  intro same
  have distance := Nat.sub_mod_eq_zero_of_mod_eq same
  rw [Nat.mod_eq_of_lt (by omega)] at distance
  omega

theorem Keeps.push (keeps : history.Keeps length packets) (length_pos : 0 < length)
    (isPiece : packet.IsPiece input length packets.length) :
    (history.push packet).Keeps length (packets ++ [packet]) where
  capacity_pos := keeps.capacity_pos
  payloadLength_eq := keeps.payloadLength_eq
  kept := by
    intro number other found recent
    rw [List.length_append, List.length_singleton] at recent
    simp only [History.push] at recent ⊢
    rw [Std.TreeMap.getElem?_insert, keeps.slot_eq length_pos isPiece]
    simp only [Std.LawfulEqCmp.compare_eq_iff_eq]
    rcases getElem?_concat_cases found with former | ⟨rfl, rfl⟩
    · obtain ⟨inside, -⟩ := List.getElem?_eq_some_iff.mp former
      rw [if_neg (slot_ne inside (by omega))]
      exact keeps.kept former (by omega)
    · rw [if_pos rfl]
  mem_of_slot := by
    intro slot other found
    rw [History.push, Std.TreeMap.getElem?_insert] at found
    split_ifs at found
    · cases found
      exact List.mem_append_right _ (List.mem_singleton_self packet)
    · exact List.mem_append_left _ (keeps.mem_of_slot found)

end History

/-! ## The queue -/

/-- The queue only has packets that were sent, each under its id. -/
def ResendQueue.Holds (queue : ResendQueue) (packets : List AudioPacket) : Prop :=
  ∀ (id : PacketId) packet,
    queue.packets[id]? = some packet → packet ∈ packets ∧ packet.id = id

namespace ResendQueue

variable {queue : ResendQueue} {requested : List AudioPacket}

theorem mem_toList : packet ∈ queue.toList ↔ ∃ id : PacketId, queue.packets[id]? = some packet := by
  simp [toList, List.mem_map, Std.TreeMap.mem_toList_iff_getElem?_eq_some]

theorem getElem?_push :
    (queue.push packet).packets[id]? =
      if packet.id = id then some packet else queue.packets[id]? := by
  rw [push, Std.TreeMap.getElem?_insert]
  simp only [Std.LawfulEqCmp.compare_eq_iff_eq]

theorem getElem?_foldl_push_cases (found : (requested.foldl push queue).packets[id]? = some packet) :
    packet ∈ requested ∧ packet.id = id ∨ queue.packets[id]? = some packet := by
  induction requested generalizing queue with
  | nil => exact .inr found
  | cons first requested ih =>
      rcases ih found with ⟨member, id_eq⟩ | pushed
      · exact .inl ⟨List.mem_cons_of_mem first member, id_eq⟩
      · rw [getElem?_push] at pushed
        split_ifs at pushed with same
        · cases pushed
          exact .inl ⟨List.mem_cons_self, same⟩
        · exact .inr pushed

theorem Holds.foldl_push (holds : queue.Holds packets)
    (sent : ∀ packet ∈ requested, packet ∈ packets) : (requested.foldl push queue).Holds packets := by
  intro id packet found
  rcases getElem?_foldl_push_cases found with ⟨member, id_eq⟩ | waiting
  · exact ⟨sent packet member, id_eq⟩
  · exact holds id packet waiting

/-- What waits under the id of a packet is that packet, if no other packet has the id. -/
theorem Holds.eq_some_of_isSome (holds : queue.Holds packets)
    (unique : ∀ other ∈ packets, other.id = packet.id → other = packet)
    (isSome : (queue.packets[packet.id]?).isSome) : queue.packets[packet.id]? = some packet := by
  obtain ⟨other, found⟩ := Option.isSome_iff_exists.mp isSome
  obtain ⟨other_member, id_eq⟩ := holds _ _ found
  rw [found, unique other other_member id_eq]

/-- A packet that waits goes on waiting, and those that are added wait too. -/
theorem isSome_foldl_push
    (waits : (queue.packets[id]?).isSome ∨ ∃ packet ∈ requested, packet.id = id) :
    ((requested.foldl push queue).packets[id]?).isSome := by
  induction requested generalizing queue with
  | nil => simpa using waits
  | cons first requested ih =>
      refine ih ?_
      rw [getElem?_push]
      by_cases same : first.id = id
      · simp [same]
      · simpa [same] using waits

end ResendQueue
end Broadcast
end AudioMulticast
