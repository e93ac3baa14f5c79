import AudioMulticast.Memory
import AudioMulticast.Wire.DataPacket
import Std.Data.TreeMap

/-!
# The packets sent most recently

Packets that were sent are kept for retransmission.  A packet is stored in the slot of its number
modulo the capacity, so it displaces the packet sent that many packets before.
-/

namespace AudioMulticast
namespace Broadcast

/-- The packets that can be sent again. -/
structure History where
  /-- Greatest number of packets. -/
  capacity : Nat
  /-- Length of the packets. -/
  payloadLength : Nat
  /-- The slots in use. -/
  slots : Std.TreeMap Nat AudioPacket := ∅

namespace History

/-- A history without packets, with room for at least one. -/
def new (capacity payloadLength : Nat) : History :=
  { capacity := max capacity 1, payloadLength }

/-- Number of bytes that a slot takes: those of an id and of a handle on a payload. -/
def slotLength : Nat := 40

/-- Number of bytes that all slots take, in use or not. -/
def memory (history : History) : Nat :=
  history.capacity * slotLength

/-- A history without packets, unless its memory is out of range. -/
def layOut (capacity payloadLength : Nat) : Except Overflow History := do
  let history := new capacity payloadLength
  Memory.request history.memory
  return history

/-- The slot of a packet. -/
def slot (history : History) (id : PacketId) : Nat :=
  id.number history.payloadLength % history.capacity

/-- Keep a packet. -/
def push (history : History) (packet : AudioPacket) : History :=
  { history with slots := history.slots.insert (history.slot packet.id) packet }

/-- The packet with an id, if it is still kept. -/
def get? (history : History) (id : PacketId) : Option AudioPacket :=
  if id.isAligned history.payloadLength then
    history.slots[history.slot id]?.filter fun packet => packet.id = id
  else
    none

end History
end Broadcast
end AudioMulticast
