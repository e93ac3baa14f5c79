import AudioMulticast.Wire.Bytes

/-!
# Audio packets on the wire

A packet is identified by the byte offset of its payload in the sender's stream, so the ids of
neighbouring packets differ by the payload length.  On the wire a packet is the sender's session id
and the packet id, eight bytes each, followed by the payload, which is never empty.
-/

namespace AudioMulticast

/-- The offset of a packet's first byte in the sender's stream. -/
abbrev PacketId := Word

/-- The start time of a sender, by which a restarted sender is recognised. -/
abbrev SessionId := Word

namespace PacketId

/-- The id at a distance behind this one, if there is such an id. -/
def plus? (id : PacketId) (distance : Word) : Option PacketId :=
  Word.ofNat? (id.val + distance.val)

/-- The id at a distance before this one, if there is such an id. -/
def minus? (id : PacketId) (distance : Word) : Option PacketId :=
  if distance.val ≤ id.val then Word.ofNat? (id.val - distance.val) else none

/-- Whether an id is the offset of a packet in a stream of packets of the given length. -/
def isAligned (id : PacketId) (length : Nat) : Bool :=
  0 < length && id.val % length == 0

/-- How many packets of the given length precede a packet. -/
def number (id : PacketId) (length : Nat) : Nat :=
  id.val / max length 1

end PacketId

/-- A piece of the stream, not yet assigned to a session. -/
structure AudioPacket where
  /-- Offset of the piece in the stream. -/
  id : PacketId
  /-- The bytes of the piece. -/
  payload : Bytes
  deriving DecidableEq, Repr

/-- A packet of a session, as it is sent. -/
structure DataPacket where
  /-- Session of the sender. -/
  session : SessionId
  /-- Offset of the payload in the stream. -/
  id : PacketId
  /-- The bytes of audio. -/
  payload : Bytes
  deriving DecidableEq, Repr

/-- A packet with the session that it is sent in. -/
def AudioPacket.stamp (packet : AudioPacket) (session : SessionId) : DataPacket :=
  { session, id := packet.id, payload := packet.payload }

/-- Why bytes are not a data packet, or a data packet cannot be written. -/
inductive DataPacketError where
  /-- There are fewer bytes than a header needs. -/
  | tooShort (length : Nat)
  /-- Nothing follows the header. -/
  | emptyPayload
  deriving DecidableEq, Repr

namespace DataPacket

/-- Number of bytes before the payload. -/
def headerLength : Nat := 16

/-- Number of bytes of a packet on the wire. -/
def wireLength (packet : DataPacket) : Nat :=
  headerLength + packet.payload.length

/-- Append a packet to a buffer, which stays as it was if the packet has no payload. -/
def write (packet : DataPacket) (buffer : Bytes) : Bytes × Except DataPacketError Unit :=
  if packet.payload = [] then
    (buffer, .error .emptyPayload)
  else
    (buffer ++ Bytes.ofWord packet.session ++ Bytes.ofWord packet.id ++ packet.payload, .ok ())

/-- The bytes of a packet. -/
def encode (packet : DataPacket) : Except DataPacketError Bytes :=
  match packet.write [] with
  | (bytes, .ok ()) => .ok bytes
  | (_, .error error) => .error error

/-- The packet that bytes stand for. -/
def decode (bytes : Bytes) : Except DataPacketError DataPacket :=
  if bytes.length < headerLength then
    .error (.tooShort bytes.length)
  else if bytes.drop headerLength = [] then
    .error .emptyPayload
  else
    .ok
      { session := Bytes.toWord (bytes.take 8)
        id := Bytes.toWord ((bytes.drop 8).take 8)
        payload := bytes.drop headerLength }

end DataPacket

/-- What is reported about bytes that are not a data packet. -/
def DataPacketError.message : DataPacketError → String
  | .tooShort length =>
      s!"data packet of {length} bytes is shorter than its {DataPacket.headerLength} byte header"
  | .emptyPayload => "data packet has an empty payload"

end AudioMulticast
