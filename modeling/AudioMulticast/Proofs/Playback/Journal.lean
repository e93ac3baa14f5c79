import AudioMulticast.Proofs.Playback.WindowTrace
import Mathlib.Logic.Function.Basic

/-!
# The journal of a window

A journal answers the calls of a window from what it remembers about the packets themselves: the
last payload that was accepted for each id, the highest id, and a cursor at the packet to be played
next. There are no slots in it, and nothing is ever shifted or dropped.
-/

namespace AudioMulticast

/-- The ids before a packet, in ascending order. -/
def PacketId.below (id : PacketId) : List PacketId :=
  (List.finRange id.val).map (Fin.castLE (Nat.le_of_lt id.isLt))

namespace Playback

/-- What is remembered about a session. -/
structure SessionJournal where
  /-- Length of every payload, fixed by the first packet. -/
  length : Nat
  /-- Greatest number of packets inside the window. -/
  capacity : Nat
  /-- Id of the first packet. -/
  first : Nat
  /-- Highest id that was accepted. -/
  top : Nat
  /-- The last payload that was accepted for each id. -/
  payloads : Nat → Option Bytes
  /-- The cursor: id of the packet that is played next. -/
  next : Nat

namespace SessionJournal

/-- The session that a first packet opens in a window of `size` bytes. -/
def start (size : Nat) (id : PacketId) (payload : Bytes) : SessionJournal :=
  { length := payload.length
    capacity := max 1 (size / payload.length)
    first := id.val
    top := id.val
    payloads := Function.update (fun _ => none) id.val (some payload)
    next := id.val }

/-- Accept a packet.  The window reaches back from the highest id over its capacity, and the cursor
never stays behind that. -/
def accept (journal : SessionJournal) (id : PacketId) (payload : Bytes) : SessionJournal :=
  let top := max journal.top id.val
  { journal with
    top
    payloads := Function.update journal.payloads id.val (some payload)
    next := max journal.next (top - (journal.capacity - 1) * journal.length) }

/-- The packets that an accepted packet reveals as missing: those between the highest id so far and
the packet that the cursor has not passed then. -/
def revealed (journal : SessionJournal) (id : PacketId) (payload : Bytes) : List PacketId :=
  id.below.filter fun other =>
    journal.length ∣ other.val ∧ journal.top < other.val ∧
      (journal.accept id payload).next ≤ other.val

/-- The lowest id with which playback starts. -/
def threshold (journal : SessionJournal) : Nat :=
  Word.saturatingAdd journal.first (journal.capacity * 3 / 4 * journal.length)

/-- Whether playback has started. -/
def isReadable (journal : SessionJournal) : Bool :=
  journal.threshold ≤ journal.top

/-- Take the packet at the cursor. -/
def advance (journal : SessionJournal) : SessionJournal :=
  { journal with next := journal.next + journal.length }

/-- What playback finds at the cursor, which a hole does not move. -/
def read (journal : SessionJournal) : SessionJournal × Reading :=
  if journal.isReadable ∧ journal.next ≤ journal.top then
    match journal.payloads journal.next with
    | none => (journal, .hole journal.next)
    | some payload => (journal.advance, .chunk payload)
  else
    (journal, .nothing)

/-- Whether a packet lies between the cursor and the highest id. -/
def covers (journal : SessionJournal) (id : PacketId) : Bool :=
  journal.next ≤ id.val ∧ id.val ≤ journal.top

/-- Whether no payload was accepted for a packet of the stream between cursor and highest id. -/
def isMissing (journal : SessionJournal) (id : PacketId) : Bool :=
  journal.covers id ∧ journal.length ∣ id.val ∧ journal.payloads id.val = none

end SessionJournal

/-- What is remembered about a window. -/
structure Journal where
  /-- Number of audio bytes that fit into the window. -/
  size : Nat
  /-- The session, if any packet was accepted. -/
  session : Option SessionJournal := none

namespace Journal

/-- What is wrong with a packet, if anything is. -/
def rejection? (journal : Journal) (id : PacketId) (payload : Bytes) : Option Rejection :=
  match journal.session with
  | none =>
      if payload = [] then some .emptyPayload
      else if payload.length ∣ id.val then none
      else some (.misaligned id payload.length)
  | some session =>
      if payload.length ≠ session.length then
        some (.payloadLength session.length payload.length)
      else if session.length ∣ id.val then none
      else some (.misaligned id session.length)

/-- The session once a packet has been accepted, and the packets that it reveals as missing. -/
def accept (journal : Journal) (id : PacketId) (payload : Bytes) :
    SessionJournal × List PacketId :=
  match journal.session with
  | none => (.start journal.size id payload, [])
  | some session => (session.accept id payload, session.revealed id payload)

/-- Check a packet and accept it. -/
def write (journal : Journal) (id : PacketId) (payload : Bytes) :
    Except Rejection (Journal × List PacketId) :=
  match journal.rejection? id payload with
  | some rejection => .error rejection
  | none =>
      let (session, missed) := journal.accept id payload
      .ok ({ journal with session := some session }, missed)

/-- Take the packet at the cursor, if there is a session. -/
def read (journal : Journal) : Journal × Reading :=
  match journal.session with
  | none => (journal, .nothing)
  | some session => ({ journal with session := some session.read.1 }, session.read.2)

/-- Carry out a call. -/
def perform (journal : Journal) : WindowCall → Journal × WindowAnswer
  | .write id payload =>
      match journal.write id payload with
      | .error rejection => (journal, .rejected rejection)
      | .ok (written, missed) => (written, .stored missed)
  | .read => (journal.read.1, .found journal.read.2)
  | .covers id => (journal, .truth (journal.session.any (·.covers id)))
  | .isMissing id => (journal, .truth (journal.session.any (·.isMissing id)))
  | .reset => ({ journal with session := none }, .done)

/-- How far the window has come. -/
def phase (journal : Journal) : Phase :=
  match journal.session with
  | none => .noSession
  | some session => if session.isReadable then .readable else .waiting

/-- The moments of a run. -/
def trace : Journal → List WindowCall → List (Moment Journal)
  | _, [] => []
  | journal, call :: calls =>
      let (after, answer) := journal.perform call
      { before := journal, call, answer, after } :: after.trace calls

/-- What a run shows: the answer to each call, and how far the window has come then. -/
def run (journal : Journal) (calls : List WindowCall) : List (WindowAnswer × Phase) :=
  (journal.trace calls).map fun moment => (moment.answer, moment.after.phase)

end Journal
end Playback
end AudioMulticast
