import AudioMulticast.Wire.DataPacket
import Std.Data.TreeMap

/-!
# Packets to be sent again

Requests are collected and served in rounds.  A packet that is requested several times within a round
is sent once.
-/

namespace AudioMulticast
namespace Broadcast

/-- The packets to be sent in the next round. -/
structure ResendQueue where
  /-- The packets by their ids. -/
  packets : Std.TreeMap PacketId AudioPacket := ∅

namespace ResendQueue

/-- Number of packets. -/
def size (queue : ResendQueue) : Nat :=
  queue.packets.size

/-- Add a packet, instead of the packet with its id if there is one. -/
def push (queue : ResendQueue) (packet : AudioPacket) : ResendQueue :=
  { packets := queue.packets.insert packet.id packet }

/-- The packets in ascending order of their ids. -/
def toList (queue : ResendQueue) : List AudioPacket :=
  queue.packets.toList.map Prod.snd

/-- Take all packets, in ascending order of their ids. -/
def drain (queue : ResendQueue) : ResendQueue × List AudioPacket :=
  ({}, queue.toList)

end ResendQueue
end Broadcast
end AudioMulticast
