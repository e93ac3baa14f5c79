import AudioMulticast.Playback.GapSchedule
import AudioMulticast.Playback.Window
import AudioMulticast.Stations.Tuning

/-!
# Receiving a stream

A reception combines the window, the schedule of missing packets and what the receiver is tuned to.
A packet passes two gates: its session is screened, and then it is stored.  The two are separate
steps, because the station may be changed in between.
-/

namespace AudioMulticast
namespace Playback

/-- The state of the reception of one stream. -/
structure Reception where
  /-- Station and session that are played. -/
  tuning : Tuning := {}
  /-- Packets that wait for playback. -/
  window : Window
  /-- Packets to be requested again. -/
  gaps : GapSchedule

/-- What a round of retransmission requests finds. -/
structure Round where
  /-- Packets to be requested. -/
  request : List PacketId
  /-- Packets that need not be requested any more. -/
  forget : List PacketId
  deriving DecidableEq, Repr

namespace Reception

/-- A reception without packets, with a window of `size` bytes. -/
def new (size interval : Nat) : Reception :=
  { window := { size }, gaps := { interval } }

/-- Look at the session of a packet, and answer whether the packet is to be ignored. -/
def screen (reception : Reception) (session : SessionId) : Reception × Bool :=
  let (tuning, ignored) := reception.tuning.screen session
  ({ reception with tuning }, ignored)

/-- Store a packet that has passed the screening, and schedule those that it reveals as missing.  A
packet that the window rejects is dropped. -/
def store (reception : Reception) (now : Nat) (packet : DataPacket) :
    Except Overflow (Reception × List PacketId) := do
  match ← reception.window.write packet.id packet.payload with
  | .error _ => return (reception, [])
  | .ok (window, missed) =>
      return ({ reception with window, gaps := reception.gaps.add missed now }, missed)

/-- Receive a packet.  The second component lists the packets that it reveals as missing. -/
def receive (reception : Reception) (now : Nat) (packet : DataPacket) :
    Except Overflow (Reception × List PacketId) :=
  match reception.screen packet.session with
  | (screened, true) => .ok (screened, [])
  | (screened, false) => screened.store now packet

/-- Receive the packet that a datagram stands for, if it stands for one. -/
def receiveDatagram (reception : Reception) (now : Nat) (datagram : Bytes) :
    Except Overflow (Reception × Except DataPacketError (List PacketId)) :=
  match DataPacket.decode datagram with
  | .error error => .ok (reception, .error error)
  | .ok packet => do
    let (received, missed) ← reception.receive now packet
    return (received, .ok missed)

/-- Determine the packets to be requested now.  Packets that are due and no longer missing are
answered too; the next round is to forget them. -/
def nextRound (reception : Reception) (now : Nat) (forgotten : List PacketId) :
    Reception × Round :=
  let (gaps, ids) := reception.gaps.next forgotten now
  let (request, forget) := reception.window.split ids
  ({ reception with gaps }, { request, forget })

/-- Demand that playback starts over. -/
def demandRestart (reception : Reception) : Reception :=
  { reception with tuning := reception.tuning.demandRestart }

/-- Take the next piece of audio.  A hole in the stream demands that playback starts over. -/
def play (reception : Reception) : Except Overflow (Reception × Option Bytes) := do
  let (window, reading) ← reception.window.read
  match reading with
  | .nothing => return ({ reception with window }, none)
  | .chunk payload => return ({ reception with window }, some payload)
  | .hole _ => return ({ reception with window }.demandRestart, none)

/-- Number of slots in the window, which bounds the number of pieces that can be taken at a time. -/
def slotCount (reception : Reception) : Nat :=
  (reception.window.session.map fun session => session.slots.length).getD 0

/-- Take up to `count` pieces of audio, until there is nothing to play. -/
def playUpTo : Nat → Reception → Except Overflow (Reception × List Bytes)
  | 0, reception => .ok (reception, [])
  | count + 1, reception => do
      let (played, piece) ← reception.play
      match piece with
      | none => return (played, [])
      | some piece =>
          let (last, pieces) ← playUpTo count played
          return (last, piece :: pieces)

/-- Take all pieces of audio up to a hole.  One attempt more than there are slots finds that there is
nothing left, or the hole. -/
def playAll (reception : Reception) : Except Overflow (Reception × List Bytes) :=
  reception.playUpTo (reception.slotCount + 1)

/-- Forget all packets of the stream. -/
def reset (reception : Reception) : Reception :=
  { reception with window := reception.window.reset, gaps := reception.gaps.clear }

end Reception
end Playback
end AudioMulticast
