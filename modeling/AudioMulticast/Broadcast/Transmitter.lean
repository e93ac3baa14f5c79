import AudioMulticast.Broadcast.Config
import AudioMulticast.Broadcast.History
import AudioMulticast.Broadcast.ResendQueue
import AudioMulticast.Clock
import AudioMulticast.Wire.Channel
import AudioMulticast.Wire.ControlMessage.Reader

/-!
# The sender

The sender keeps the packets that it sends.  It replies to lookups, and collects requested packets,
which it sends again in rounds.  Every packet is stamped with the sender's session when it is sent.
Times are milliseconds.
-/

namespace AudioMulticast
namespace Broadcast

/-- A sender at work. -/
structure Transmitter where
  /-- Settings of the sender. -/
  config : Config
  /-- Session that the packets are sent in. -/
  session : SessionId
  /-- Packets that can be sent again. -/
  history : History
  /-- Packets that are going to be sent again. -/
  queue : ResendQueue := {}

namespace Transmitter

/-- A sender that has not sent anything. -/
def new (config : Config) (session : SessionId) : Transmitter :=
  { config, session, history := .new config.cacheCapacity config.packetSize }

/-- A sender that has not sent anything, unless the memory of its history is out of range. -/
def layOut (config : Config) (session : SessionId) : Except Overflow Transmitter := do
  let history ← History.layOut config.cacheCapacity config.packetSize
  return { config, session, history }

/-- Send a packet in the sender's session.  A packet without a payload is not sent. -/
def transmit (transmitter : Transmitter) (channel : Channel) (packet : AudioPacket) : Channel :=
  match (packet.stamp transmitter.session).encode with
  | .ok datagram => (channel.send transmitter.config.target datagram).1
  | .error _ => channel

/-- Keep a packet and send it. -/
def broadcast (transmitter : Transmitter) (channel : Channel) (packet : AudioPacket) :
    Transmitter × Channel :=
  ({ transmitter with history := transmitter.history.push packet },
    transmitter.transmit channel packet)

/-- Add those of the requested packets that are still kept to the next round. -/
def enqueue (transmitter : Transmitter) (ids : List PacketId) : Transmitter :=
  { transmitter with
    queue := (ids.filterMap transmitter.history.get?).foldl ResendQueue.push transmitter.queue }

/-- Handle a datagram that was received on the control port. -/
def handleControl (transmitter : Transmitter) (channel : Channel) (datagram : Bytes)
    (source : Endpoint) : Transmitter × Channel :=
  match ControlMessage.decode datagram with
  | .ok .lookup => (transmitter, channel.announce source (.reply transmitter.config.reply))
  | .ok (.request ids) => (transmitter.enqueue ids, channel)
  | .ok (.reply _) => (transmitter, channel)
  | .error _ => (transmitter, channel)

/-- Receive datagrams on the control port. -/
def receiveControl (transmitter : Transmitter) (channel : Channel) (datagrams : List Bytes)
    (source : Endpoint) : Transmitter × Channel :=
  let handle (state : Transmitter × Channel) (datagram : Bytes) : Transmitter × Channel :=
    state.1.handleControl state.2 (datagram.take transmitter.config.maxDatagram) source
  datagrams.foldl handle (transmitter, channel)

/-- Send all packets that were requested since the round before. -/
def resend (transmitter : Transmitter) (channel : Channel) : Transmitter × Channel :=
  let (queue, packets) := transmitter.queue.drain
  ({ transmitter with queue }, packets.foldl transmitter.transmit channel)

/-- Send requested packets in rounds for some time, unless the run is cancelled before that. -/
def resendFor (transmitter : Transmitter) (channel : Channel) (duration : Nat) :
    Transmitter × Channel :=
  workUntil (fun state => state.2.cancelled) (fun state _ => state.1.resend state.2)
    (ticks transmitter.config.resendInterval 0 duration) (transmitter, channel)

end Transmitter
end Broadcast
end AudioMulticast
