import AudioMulticast.Proofs.Broadcast.CutPackets
import AudioMulticast.Proofs.Broadcast.ValidConfig
import Mathlib.Data.List.Induction
import Mathlib.Order.Bounds.Basic
import Mathlib.Tactic.IntervalCases

/-!
# What a history has kept

A packet can be sent again until a later packet takes its slot.  A sender's packets are numbered from
zero on, so each of them takes the next slot, and the last ones are kept, as many as there are slots.
There are just enough slots for the number of bytes that the settings ask for.
-/

namespace AudioMulticast
namespace Broadcast
namespace History

/-- Whether a packet can be sent again after some packets have been put into so many slots: its id is
the offset of a packet, and its slot has not been taken by a later one. -/
def IsKept (capacity length : Nat) (packets : List AudioPacket) (packet : AudioPacket) : Prop :=
  packet.id.isAligned length = true ∧
    ∃ before after, packets = before ++ packet :: after ∧
      ∀ later ∈ after, later.id.number length % capacity ≠ packet.id.number length % capacity

/-- Packets with the numbers from zero on. -/
def Numbered (length : Nat) (packets : List AudioPacket) : Prop :=
  ∀ {number : Nat} {packet}, packets[number]? = some packet → packet.id.val = number * length

variable {history : History} {capacity length number slot : Nat} {packets : List AudioPacket}
  {packet : AudioPacket} {id : PacketId}

/-- A history is made exactly if the block of memory for its slots is in range. -/
theorem layOut_eq_ok_iff :
    layOut capacity length = .ok history ↔
      (new capacity length).memory < Memory.outOfRange ∧ history = new capacity length := by
  rw [layOut]
  rcases Nat.lt_or_ge (new capacity length).memory Memory.outOfRange with fits | tooLarge
  · rw [Memory.request_of_lt fits, Overflow.ok_bind]
    exact ⟨fun made => ⟨fits, (Except.ok.inj made).symm⟩, by rintro ⟨-, rfl⟩; rfl⟩
  · rw [Memory.request_of_le tooLarge, Overflow.error_bind]
    exact iff_of_false (by rintro ⟨⟩) fun made => Nat.not_lt.mpr tooLarge made.1

/-! ## Any packets -/

theorem foldl_push_settings (history : History) (packets : List AudioPacket) :
    (packets.foldl push history).capacity = history.capacity ∧
      (packets.foldl push history).payloadLength = history.payloadLength := by
  induction packets using List.reverseRecOn with
  | nil => exact ⟨rfl, rfl⟩
  | append_singleton packets last ih =>
      rw [List.foldl_concat]
      exact ih

theorem slot_foldl_push (history : History) (packets : List AudioPacket) (id : PacketId) :
    (packets.foldl push history).slot id = history.slot id := by
  obtain ⟨capacity_eq, length_eq⟩ := history.foldl_push_settings packets
  rw [History.slot, History.slot, capacity_eq, length_eq]

/-- A slot has the last packet that was put into it. -/
theorem getElem?_foldl_push (history : History) (packets : List AudioPacket) (slot : Nat) :
    (packets.foldl push history).slots[slot]? =
      (packets.reverse.find? fun packet => history.slot packet.id == slot).or
        history.slots[slot]? := by
  induction packets using List.reverseRecOn with
  | nil => rw [List.foldl_nil, List.reverse_nil, List.find?_nil, Option.none_or]
  | append_singleton packets last ih =>
      rw [List.foldl_concat, push, Std.TreeMap.getElem?_insert, slot_foldl_push, ih,
        List.reverse_concat, List.find?_cons]
      simp only [Std.LawfulEqCmp.compare_eq_iff_eq]
      by_cases taken : history.slot last.id = slot
      · rw [if_pos taken, beq_iff_eq.mpr taken, Option.some_or]
      · rw [if_neg taken, beq_eq_false_iff_ne.mpr taken]

theorem find?_reverse_eq_some_iff {isIn : AudioPacket → Bool} :
    packets.reverse.find? isIn = some packet ↔
      isIn packet = true ∧ ∃ before after, packets = before ++ packet :: after ∧
        ∀ later ∈ after, isIn later = false := by
  rw [List.find?_eq_some_iff_append]
  refine and_congr_right fun _ => ⟨?_, ?_⟩
  · rintro ⟨after, before, cut, outside⟩
    refine ⟨before.reverse, after.reverse, ?_, fun later member => ?_⟩
    · rw [← List.reverse_reverse packets, cut, List.reverse_append, List.reverse_cons,
        List.append_assoc, List.singleton_append]
    · exact (Bool.not_eq_true' _).mp (outside later (List.mem_reverse.mp member))
  · rintro ⟨before, after, rfl, outside⟩
    refine ⟨after.reverse, before.reverse, ?_, fun later member => ?_⟩
    · rw [List.reverse_append, List.reverse_cons, List.append_assoc, List.singleton_append]
    · rw [outside later (List.mem_reverse.mp member), Bool.not_false]

/-- The packet with an id is answered exactly if it is kept. -/
theorem get?_foldl_push :
    (packets.foldl push (new capacity length)).get? id = some packet ↔
      packet.id = id ∧ IsKept (max capacity 1) length packets packet := by
  have found_iff (slot : Nat) :
      (packets.foldl push (new capacity length)).slots[slot]? = some packet ↔
        (new capacity length).slot packet.id = slot ∧
          ∃ before after, packets = before ++ packet :: after ∧
            ∀ later ∈ after, (new capacity length).slot later.id ≠ slot := by
    have unused : (new capacity length).slots[slot]? = none := by simp [new]
    rw [getElem?_foldl_push, unused, Option.or_none, find?_reverse_eq_some_iff]
    simp only [beq_iff_eq, beq_eq_false_iff_ne]
  rw [get?, (foldl_push_settings _ packets).2, slot_foldl_push]
  constructor
  · intro found
    split_ifs at found with aligned
    obtain ⟨slot_eq, id_eq⟩ := Option.filter_eq_some_iff.mp found
    obtain rfl := of_decide_eq_true id_eq
    exact ⟨rfl, aligned, ((found_iff _).mp slot_eq).2⟩
  · rintro ⟨rfl, aligned, last⟩
    have aligned : packet.id.isAligned (new capacity length).payloadLength = true := aligned
    rw [if_pos aligned, (found_iff _).mpr ⟨rfl, last⟩, Option.filter_some,
      if_pos (decide_eq_true rfl)]

theorem IsKept.mem (kept : IsKept capacity length packets packet) : packet ∈ packets := by
  obtain ⟨-, before, after, rfl, -⟩ := kept
  exact List.mem_append_right _ List.mem_cons_self

/-! ## Numbered packets -/

theorem Numbered.number_eq (numbered : Numbered length packets) (length_pos : 0 < length)
    (found : packets[number]? = some packet) : packet.id.number length = number := by
  rw [PacketId.number, numbered found, Nat.max_eq_left length_pos,
    Nat.mul_div_cancel number length_pos]

/-- The last packets are kept, as many as there are slots. -/
theorem Numbered.isKept_iff (numbered : Numbered length packets) (length_pos : 0 < length)
    (capacity_pos : 0 < capacity) :
    IsKept capacity length packets packet ↔
      ∃ number, packets[number]? = some packet ∧ packets.length - number ≤ capacity := by
  constructor
  · rintro ⟨-, before, after, cut, untaken⟩
    have found : packets[before.length]? = some packet := by simp [cut]
    refine ⟨before.length, found, ?_⟩
    by_contra displaced
    -- The packet that is as many numbers further on as there are slots takes the slot.
    have later_lt : before.length + capacity < packets.length := by omega
    have later_found := List.getElem?_eq_getElem later_lt
    have later_mem : packets[before.length + capacity] ∈ after := by
      have behind : packets[before.length + capacity]? = after[capacity - 1]? := by
        obtain ⟨rest, rfl⟩ := Nat.exists_eq_add_one.mpr capacity_pos
        rw [cut, List.getElem?_append_right (Nat.le_add_right _ _), Nat.add_sub_cancel_left,
          List.getElem?_cons_succ, Nat.add_sub_cancel]
      rw [later_found] at behind
      exact List.mem_of_getElem? behind.symm
    refine untaken _ later_mem ?_
    rw [numbered.number_eq length_pos later_found, numbered.number_eq length_pos found,
      Nat.add_mod_right]
  · rintro ⟨number, found, near⟩
    obtain ⟨inside, packet_eq⟩ := List.getElem?_eq_some_iff.mp found
    refine ⟨?_, packets.take number, packets.drop (number + 1), ?_, fun later member => ?_⟩
    · rw [PacketId.isAligned_iff length_pos, numbered found]
      exact Nat.dvd_mul_left length number
    · rw [← packet_eq, ← List.drop_eq_getElem_cons inside, List.take_append_drop]
    · obtain ⟨distance, later_found⟩ := List.mem_iff_getElem?.mp member
      rw [List.getElem?_drop] at later_found
      obtain ⟨later_lt, -⟩ := List.getElem?_eq_some_iff.mp later_found
      rw [numbered.number_eq length_pos later_found, numbered.number_eq length_pos found]
      exact slot_ne (by omega) (by omega)

end History

/-! ## The number of slots -/

namespace Config

variable {config : Config}

theorem isLeast_cacheCapacity (packetSize_pos : 0 < config.packetSize)
    (cacheSize_pos : 0 < config.cacheSize) :
    IsLeast {count | config.cacheSize ≤ count * config.packetSize} config.cacheCapacity := by
  rw [cacheCapacity, Nat.max_eq_left cacheSize_pos, Nat.max_eq_left packetSize_pos]
  constructor
  · have above := Nat.lt_mul_div_succ (config.cacheSize - 1) packetSize_pos
    change config.cacheSize ≤ (1 + (config.cacheSize - 1) / config.packetSize) * config.packetSize
    rw [Nat.add_comm, Nat.mul_comm]
    omega
  · intro count enough
    have below : (config.cacheSize - 1) / config.packetSize < count := by
      rw [Nat.div_lt_iff_lt_mul packetSize_pos]
      have enough : config.cacheSize ≤ count * config.packetSize := enough
      omega
    omega

/-- The number of slots is calculated within words: it is no greater than the number of bytes. -/
theorem add_eq_cacheCapacity (cacheSize_lt : config.cacheSize < Word.count) :
    Word.add 1 ((max config.cacheSize 1 - 1) / max config.packetSize 1) =
      .ok config.cacheCapacity := by
  have quotient_le := Nat.div_le_self (max config.cacheSize 1 - 1) (max config.packetSize 1)
  have one_lt : 1 < Word.count := by decide
  exact Word.add_of_lt (by omega)

end Config

/-- A sender that has kept some packets answers the most recent ones, which are enough for the
number of bytes that its settings ask for. -/
structure KeepsRecent (config : Config) : Prop where
  /-- A history is made exactly if the block of memory for its slots is in range, and all of the slots
  are free at first. -/
  layOut_eq_ok_iff : ∀ {history : History},
    History.layOut config.cacheCapacity config.packetSize = .ok history ↔
      (History.new config.cacheCapacity config.packetSize).memory < Memory.outOfRange ∧
        history = .new config.cacheCapacity config.packetSize
  /-- There are as few slots as are needed for that number of bytes. -/
  isLeast : IsLeast {count | config.cacheSize ≤ count * config.packetSize} config.cacheCapacity
  /-- Of numbered packets, the last ones are answered, one for each slot, and nothing else is. -/
  get?_eq_some_iff : ∀ {packets : List AudioPacket}, History.Numbered config.packetSize packets →
    ∀ {id : PacketId} {packet : AudioPacket},
      (packets.foldl History.push (.new config.cacheCapacity config.packetSize)).get? id =
          some packet ↔
        ∃ number, packets[number]? = some packet ∧ id.val = number * config.packetSize ∧
          packets.length - number ≤ config.cacheCapacity
  /-- Each of the last bytes is in a packet that is answered. -/
  covers : ∀ {packets : List AudioPacket}, History.Numbered config.packetSize packets →
    ∀ offset < packets.length * config.packetSize,
      packets.length * config.packetSize ≤ offset + config.cacheSize →
        ∃ packet, packets[offset / config.packetSize]? = some packet ∧
          (packets.foldl History.push
            (.new config.cacheCapacity config.packetSize)).get? packet.id = some packet

theorem keepsRecent_of_isValid {config : Config} (valid : config.IsValid) : KeepsRecent config := by
  have packetSize_pos := Nat.pos_of_ne_zero valid.packetSize_ne
  have isLeast := Config.isLeast_cacheCapacity packetSize_pos
    (packetSize_pos.trans_le valid.packetSize_le)
  have capacity_pos : 0 < config.cacheCapacity := Nat.lt_of_lt_of_le one_pos (Nat.le_add_right 1 _)
  have get?_eq_some_iff {packets : List AudioPacket}
      (numbered : History.Numbered config.packetSize packets) {id : PacketId}
      {packet : AudioPacket} :
      (packets.foldl History.push (.new config.cacheCapacity config.packetSize)).get? id =
          some packet ↔
        ∃ number, packets[number]? = some packet ∧ id.val = number * config.packetSize ∧
          packets.length - number ≤ config.cacheCapacity := by
    rw [History.get?_foldl_push, Nat.max_eq_left capacity_pos,
      numbered.isKept_iff packetSize_pos capacity_pos]
    constructor
    · rintro ⟨rfl, number, found, near⟩
      exact ⟨number, found, numbered found, near⟩
    · rintro ⟨number, found, id_eq, near⟩
      exact ⟨Fin.ext ((numbered found).trans id_eq.symm), number, found, near⟩
  refine ⟨History.layOut_eq_ok_iff, isLeast, get?_eq_some_iff,
    fun {packets} numbered offset offset_lt recent => ?_⟩
  have inside : offset / config.packetSize < packets.length :=
    (Nat.div_lt_iff_lt_mul packetSize_pos).mpr offset_lt
  have found := List.getElem?_eq_getElem inside
  refine ⟨_, found, (get?_eq_some_iff numbered).mpr ⟨_, found, numbered found, ?_⟩⟩
  have enough : config.cacheSize ≤ config.cacheCapacity * config.packetSize := isLeast.1
  rw [Nat.sub_le_iff_le_add]
  have near : packets.length * config.packetSize <
      (config.cacheCapacity + offset / config.packetSize + 1) * config.packetSize := by
    have offset_below := Nat.lt_div_mul_add packetSize_pos (a := offset)
    rw [Nat.add_mul, Nat.add_mul, Nat.one_mul]
    omega
  exact Nat.le_of_lt_succ (Nat.lt_of_mul_lt_mul_right near)

/-- The number of slots is calculated within words for all sizes.  A sender with valid settings
answers the most recent packets.  Whatever packets are kept, none is answered for another id. -/
theorem answers_recent_packets (config : Config) :
    (config.cacheSize < Word.count →
      Word.add 1 ((max config.cacheSize 1 - 1) / max config.packetSize 1) =
        .ok config.cacheCapacity) ∧
    (config.validate = .ok (.ok ()) → KeepsRecent config) ∧
    ∀ (capacity length : Nat) (pushed : List AudioPacket) (id : PacketId) (packet : AudioPacket),
      (pushed.foldl History.push (.new capacity length)).get? id = some packet →
        packet.id = id ∧ packet ∈ pushed := by
  refine ⟨Config.add_eq_cacheCapacity,
    fun valid => keepsRecent_of_isValid (Config.validate_eq_ok_iff.mp valid), ?_⟩
  intro capacity length pushed id packet found
  obtain ⟨id_eq, kept⟩ := History.get?_foldl_push.mp found
  exact ⟨id_eq, kept.mem⟩

/-- Nine bytes are to be kept, which takes three packets of four bytes. -/
def roundedUp : Config :=
  { group := ⟨239, 10, 11, 12⟩, packetSize := 4, cacheSize := 9 }

/-- Two packets more than there are slots. -/
def fivePackets : List AudioPacket :=
  [⟨0, [0, 0, 0, 0]⟩, ⟨4, [1, 1, 1, 1]⟩, ⟨8, [2, 2, 2, 2]⟩, ⟨12, [3, 3, 3, 3]⟩, ⟨16, [4, 4, 4, 4]⟩]

theorem numbered_fivePackets : History.Numbered 4 fivePackets := by
  intro number packet found
  obtain ⟨inside, packet_eq⟩ := List.getElem?_eq_some_iff.mp found
  have number_lt : number < 5 := inside
  interval_cases number
  all_goals exact packet_eq ▸ rfl

/-- The first two of five packets are gone, and the last three are answered. -/
theorem answers_recent_packets_of_wrap :
    roundedUp.cacheSize < Word.count ∧ roundedUp.validate = .ok (.ok ()) ∧
      KeepsRecent roundedUp ∧
        (fivePackets.foldl History.push (.new 3 4)).get? 4 = none ∧
          (fivePackets.foldl History.push (.new 3 4)).get? 9 = none ∧
            ∃ packet, (fivePackets.foldl History.push (.new 3 4)).get? 8 = some packet ∧
              packet.id = 8 ∧ packet ∈ fivePackets := by
  obtain ⟨-, keepsRecent, unmixed⟩ := answers_recent_packets roundedUp
  have valid : roundedUp.validate = .ok (.ok ()) := by decide +kernel
  have kept : (fivePackets.foldl History.push (.new 3 4)).get? 8 = some ⟨8, [2, 2, 2, 2]⟩ :=
    ((keepsRecent valid).get?_eq_some_iff numbered_fivePackets).mpr ⟨2, rfl, rfl, by decide⟩
  exact ⟨by decide, valid, keepsRecent valid, by decide +kernel, by decide +kernel, _, kept,
    unmixed 3 4 fivePackets 8 _ kept⟩

end Broadcast
end AudioMulticast
