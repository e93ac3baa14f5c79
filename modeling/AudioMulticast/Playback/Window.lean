import AudioMulticast.Wire.DataPacket

/-!
# The reordering window

Packets arrive in any order and are played in the order of their ids.  The window holds one slot for
each packet between its front, which is played next, and its back, the highest id received.  A packet
behind the back moves the back, opens empty slots for the packets that it skips, and reports them as
missing; where that makes the window too long, slots are dropped at the front, played or not.
Playback starts once the window is three quarters full, and it cannot go on at a slot whose packet
never arrived.

A packet is first checked and then stored, so a rejected packet leaves no trace.
-/

namespace AudioMulticast
namespace Playback

/-- Why a packet is not accepted by a window. -/
inductive Rejection where
  /-- The first packet of a session has no payload. -/
  | emptyPayload
  /-- The id is not the offset of a packet of this length. -/
  | misaligned (id : PacketId) (length : Nat)
  /-- The payload is not as long as those before it in the session. -/
  | payloadLength (expected actual : Nat)
  deriving DecidableEq, Repr

/-- What is reported about a packet that is not accepted. -/
def Rejection.message : Rejection → String
  | .emptyPayload => "packet has an empty payload"
  | .misaligned id length => s!"packet id {id.val} is not a multiple of the payload length {length}"
  | .payloadLength expected actual =>
      s!"payload length {actual} differs from the session's payload length {expected}"

/-- What playback finds at the front of a window. -/
inductive Reading where
  /-- Playback has not started, or it has caught up with the sender. -/
  | nothing
  /-- The next piece of audio. -/
  | chunk (payload : Bytes)
  /-- A packet that never arrived. -/
  | hole (id : Nat)
  deriving DecidableEq, Repr

/-- What is reported about a hole in the stream. -/
def holeMessage (id : Nat) : String :=
  s!"packet #{id} at the front of the playback window was never received"

/-- How far a window has come since it was last emptied. -/
inductive Phase where
  /-- No packet has arrived. -/
  | noSession
  /-- Packets are collected, and playback has not started. -/
  | waiting
  /-- Playback has started. -/
  | readable
  deriving DecidableEq, Repr

/-- The packets of one session inside a window. -/
structure WindowSession where
  /-- Length of every payload, fixed by the first packet. -/
  payloadLength : Nat
  /-- Greatest number of slots. -/
  capacity : Nat
  /-- Playback starts with the arrival of this id or a higher one. -/
  threshold : Nat
  /-- Id of the first slot. -/
  front : Nat
  /-- Highest id that has arrived. -/
  back : Nat
  /-- The slots from the front to the back, each with its payload if that has arrived. -/
  slots : List (Option Bytes)
  /-- Whether playback has started. -/
  started : Bool
  deriving DecidableEq, Repr

/-- The ids from `next` up to `stop` exclusively, `length` apart. -/
def idsBetween (length : Nat) (stop : PacketId) (next : Nat) : Except Overflow (List PacketId) :=
  if inside : next < stop.val ∧ 0 < length then
    if next + length < Word.count then do
      let rest ← idsBetween length stop (next + length)
      return ⟨next, by omega⟩ :: rest
    else
      .error .addition
  else
    .ok []
  termination_by stop.val - next

namespace WindowSession

/-- The session that a first packet opens in a window of `size` bytes. -/
def start (size : Nat) (id : PacketId) (payload : Bytes) : Except Overflow WindowSession := do
  let capacity := max (size / payload.length) 1
  let tripled ← Word.mul capacity 3
  let distance ← Word.mul (tripled / 4) payload.length
  let session : WindowSession :=
    { payloadLength := payload.length
      capacity
      threshold := Word.saturatingAdd id.val distance
      front := id.val
      back := id.val
      slots := [some payload]
      started := false }
  return session

/-- Start playback if the packet that has arrived reaches the threshold. -/
def startAt (session : WindowSession) (id : PacketId) : WindowSession :=
  { session with started := session.started || session.threshold ≤ id.val }

/-- Fill the slot of a packet between front and back. -/
def fill (session : WindowSession) (id : PacketId) (payload : Bytes) : WindowSession :=
  { session with
    slots := session.slots.set ((id.val - session.front) / session.payloadLength) (some payload) }

/-- Move the back to a packet behind it.  The second component lists the packets that were skipped
and are still inside the window. -/
def extend (session : WindowSession) (id : PacketId) (payload : Bytes) :
    Except Overflow (WindowSession × List PacketId) := do
  let reach ← Word.mul (session.capacity - 1) session.payloadLength
  let front := if reach ≤ id.val then max (id.val - reach) session.front else session.front
  let kept := session.slots.drop ((front - session.front) / session.payloadLength)
  let next := max (Word.saturatingAdd session.back session.payloadLength) front
  let missed ← idsBetween session.payloadLength id next
  let slots := kept ++ missed.map (fun _ => none) ++ [some payload]
  return ({ session with front, back := id.val, slots }, missed)

/-- Put a packet into its place.  A packet before the front is ignored. -/
def place (session : WindowSession) (id : PacketId) (payload : Bytes) :
    Except Overflow (WindowSession × List PacketId) :=
  if id.val < session.front then
    .ok (session, [])
  else if id.val ≤ session.back then
    .ok (session.fill id payload, [])
  else
    session.extend id payload

/-- Whether a packet lies between front and back. -/
def covers (session : WindowSession) (id : PacketId) : Bool :=
  !session.slots.isEmpty && session.front ≤ id.val && id.val ≤ session.back

/-- Whether a packet has an empty slot among some slots, of which the first one is at the front. -/
def lacks (session : WindowSession) (slots : Array (Option Bytes)) (id : PacketId) : Bool :=
  session.covers id && id.isAligned session.payloadLength &&
    slots[(id.val - session.front) / session.payloadLength]? == some none

/-- Whether a packet has an empty slot. -/
def isMissing (session : WindowSession) (id : PacketId) : Bool :=
  session.lacks session.slots.toArray id

end WindowSession

/-- A reordering window over the packets of a single session. -/
structure Window where
  /-- Number of audio bytes that fit into the window. -/
  size : Nat
  /-- The session whose packets are inside, if any packet has arrived. -/
  session : Option WindowSession := none
  deriving DecidableEq, Repr

namespace Window

/-- How far the window has come. -/
def phase (window : Window) : Phase :=
  match window.session with
  | none => .noSession
  | some session => if session.started then .readable else .waiting

/-- What is wrong with a packet, if anything is. -/
def rejection? (window : Window) (id : PacketId) (payload : Bytes) : Option Rejection :=
  match window.session with
  | none =>
      if payload = [] then some .emptyPayload
      else if id.isAligned payload.length then none
      else some (.misaligned id payload.length)
  | some session =>
      if payload.length ≠ session.payloadLength then
        some (.payloadLength session.payloadLength payload.length)
      else if id.isAligned session.payloadLength then none
      else some (.misaligned id session.payloadLength)

/-- Store a packet that has passed the check.  The second component lists the packets that it reveals
as missing. -/
def store (window : Window) (id : PacketId) (payload : Bytes) :
    Except Overflow (Window × List PacketId) := do
  let (session, missed) ←
    match window.session with
    | none => (WindowSession.start window.size id payload).map (·, [])
    | some session => session.place id payload
  return ({ window with session := some (session.startAt id) }, missed)

/-- Check a packet and store it. -/
def write (window : Window) (id : PacketId) (payload : Bytes) :
    Except Overflow (Except Rejection (Window × List PacketId)) :=
  match window.rejection? id payload with
  | some rejection => .ok (.error rejection)
  | none => (window.store id payload).map .ok

/-- Take the next piece of audio off the front. -/
def read (window : Window) : Except Overflow (Window × Reading) :=
  match window.session with
  | none => .ok (window, .nothing)
  | some session =>
      if session.started then
        match session.slots with
        | [] => .ok (window, .nothing)
        | none :: _ => .ok (window, .hole session.front)
        | some payload :: slots => do
          let front ← Word.add session.front session.payloadLength
          return ({ window with session := some { session with front, slots } }, .chunk payload)
      else
        .ok (window, .nothing)

/-- Whether a packet lies between the front and the back of the window. -/
def covers (window : Window) (id : PacketId) : Bool :=
  window.session.any (·.covers id)

/-- Whether a packet lies inside the window and has not arrived. -/
def isMissing (window : Window) (id : PacketId) : Bool :=
  window.session.any (·.isMissing id)

/-- Divide packets into those that are missing and the others.  The slots are put side by side once, so
that each of the packets is found at once. -/
def split (window : Window) (ids : List PacketId) : List PacketId × List PacketId :=
  match window.session with
  | none => ([], ids)
  | some session =>
      let slots := session.slots.toArray
      ids.partition fun id => session.lacks slots id

theorem split_eq (window : Window) (ids : List PacketId) :
    window.split ids = (ids.filter window.isMissing, ids.filter fun id => !window.isMissing id) := by
  obtain ⟨size, session⟩ := window
  cases session with
  | none => exact Prod.ext (by simp [split, isMissing]) (List.filter_eq_self.2 fun _ _ => rfl).symm
  | some session =>
      simp only [split, List.partition_eq_filter_filter]
      rfl

/-- Forget all packets. -/
def reset (window : Window) : Window :=
  { window with session := none }

end Window
end Playback
end AudioMulticast
