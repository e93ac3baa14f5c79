import AudioMulticast.Broadcast.Transmitter

/-!
# Sending an input

The input arrives in pieces of any length.  As soon as there is enough for a packet, the packet is cut
off, numbered by its offset, kept and sent.  What is left at the end and is too short for a packet is
dropped.  What is read takes a block of memory as long as a packet, and each packet that is sent
takes one as long as its datagram.
-/

namespace AudioMulticast
namespace Broadcast

/-- How an input ends. -/
inductive InputEnd where
  /-- There is no more input, or the run has been cancelled. -/
  | finished
  /-- Reading or numbering failed, for the given reason. -/
  | failed (reason : String)
  deriving DecidableEq, Inhabited, Repr

/-- A sender in the middle of its input. -/
structure Input where
  /-- The sender. -/
  transmitter : Transmitter
  /-- The channel that packets are sent on. -/
  channel : Channel
  /-- Id of the next packet. -/
  next : PacketId := 0
  /-- Bytes that have arrived and have not been sent. -/
  pending : Bytes := []
  /-- Set if sending ends before the input does. -/
  ended : Option InputEnd := none

namespace Input

/-- Cut packets off as long as there is enough for them. -/
def cut (input : Input) : Input :=
  let length := input.transmitter.config.packetSize
  let payload := input.pending.take length
  if input.ended.isSome then
    input
  else if input.channel.cancelled then
    { input with ended := some .finished }
  else if _enough : 0 < length ∧ payload.length = length then
    let packet : AudioPacket := { id := input.next, payload }
    let (transmitter, channel) := input.transmitter.broadcast input.channel packet
    let pending := input.pending.drop length
    match Word.ofNat? (input.next.val + length) with
    | some next => cut { input with transmitter, channel, next, pending }
    | none =>
        { input with transmitter, channel, pending, ended := some (.failed "packet id overflow") }
  else
    input
  termination_by input.pending.length
  decreasing_by
    simp only [List.length_drop]
    simp only [payload, List.length_take] at _enough
    omega

/-- Take a piece of the input in. -/
def feed (input : Input) (piece : Bytes) : Input :=
  cut { input with pending := input.pending ++ piece }

/-- Whether a packet is cut off as soon as a piece of the input is taken in. -/
def isDue (input : Input) (piece : Bytes) : Bool :=
  let length := input.transmitter.config.packetSize
  input.ended.isNone && !input.channel.cancelled && 0 < length &&
    length ≤ (input.pending ++ piece).length

/-- Take a piece of the input in, with a block of memory for the datagram of each packet that is cut
off, unless the block is out of range. -/
def feedBlocks (input : Input) (piece : Bytes) : Except Overflow Input := do
  -- All datagrams have the same length: the block for the first of them decides.
  if input.isDue piece then
    Memory.request (DataPacket.headerLength + input.transmitter.config.packetSize)
  return input.feed piece

end Input

/-- Send an input that arrives in pieces and then ends, with a block of memory for what is read and
blocks for the datagrams, unless one of them is out of range. -/
def Transmitter.streamBlocks (transmitter : Transmitter) (channel : Channel) (pieces : List Bytes)
    (ending : InputEnd) : Except Overflow (Transmitter × Channel × InputEnd) := do
  Memory.request transmitter.config.packetSize
  let last ← pieces.foldlM Input.feedBlocks { transmitter, channel }
  return (last.transmitter, last.channel, last.ended.getD ending)

end Broadcast
end AudioMulticast
