import AudioMulticast.Broadcast.Config
import Mathlib.Tactic.SplitIfs

/-!
# Valid settings of a sender

What the checks of the settings amount to, whatever their order.
-/

namespace AudioMulticast
namespace Broadcast
namespace Config

/-- Settings that pass all checks. -/
structure IsValid (config : Config) : Prop where
  multicast : config.group.isMulticast = true
  packetSize_ne : config.packetSize ≠ 0
  datagram_lt : config.packetSize + DataPacket.headerLength < Word.count
  datagram_le : config.packetSize + DataPacket.headerLength ≤ config.maxDatagram
  packetSize_le : config.packetSize ≤ config.cacheSize
  resendInterval_ne : config.resendInterval ≠ 0
  named : Text.trim config.name.toList ≠ []
  unbroken : '\n' ∉ config.name.toList

theorem validate_eq_ok_iff {config : Config} : config.validate = .ok (.ok ()) ↔ config.IsValid := by
  rw [validate]
  constructor
  · intro checked
    rcases Nat.lt_or_ge (config.packetSize + DataPacket.headerLength) Word.count with
      fits | tooLarge
    · rw [Word.add_of_lt fits, Overflow.ok_bind] at checked
      -- Every fault but the last `else` is an answer of its own.
      split_ifs at checked with foreign empty large small fast unnamed broken
      all_goals cases checked
      exact ⟨by simpa using foreign, empty, fits, Nat.le_of_not_lt large, Nat.le_of_not_lt small,
        fast, unnamed, broken⟩
    · rw [Word.add_of_le tooLarge, Overflow.error_bind] at checked
      split_ifs at checked
      all_goals cases checked
  · rintro ⟨multicast, packetSize_ne, datagram_lt, datagram_le, packetSize_le, resendInterval_ne,
      named, unbroken⟩
    simp [multicast, packetSize_ne, Word.add_of_lt datagram_lt, Nat.not_lt.mpr datagram_le,
      Nat.not_lt.mpr packetSize_le, resendInterval_ne, named, unbroken]
    rfl

end Config
end Broadcast
end AudioMulticast
