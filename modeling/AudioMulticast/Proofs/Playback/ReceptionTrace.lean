import AudioMulticast.Playback.Reception

/-!
# Runs of a reception

Datagrams arrive at a reception, audio is taken from it, rounds of requests take place, and playback
is made to start over, in any order, while time passes.  A run is recorded moment by moment, with
the answer to each event; a run that overflows has no record.  Times, being numbers of milliseconds
without an upper bound, do not overflow.
-/

namespace AudioMulticast
namespace Playback

/-- What can happen to a reception. -/
inductive ReceptionEvent where
  /-- A datagram of any content arrives. -/
  | datagram (bytes : Bytes)
  /-- A packet arrives. -/
  | receive (packet : DataPacket)
  /-- Playback takes the next piece of audio. -/
  | play
  /-- The packets to be requested are determined, and some are forgotten. -/
  | round (forgotten : List PacketId)
  /-- The flag is lowered. -/
  | collect
  /-- A station is chosen. -/
  | choose (station : Option Station)
  /-- The flag is raised. -/
  | demand
  /-- The packets are forgotten. -/
  | reset
  /-- Time passes. -/
  | wait (duration : Nat)
  deriving DecidableEq

/-- What an event is answered with. -/
inductive ReceptionAnswer where
  /-- The datagram is not a packet. -/
  | undecodable (error : DataPacketError)
  /-- The packets that a packet has revealed as missing. -/
  | revealed (missed : List PacketId)
  /-- The piece of audio, if there was one. -/
  | played (piece : Option Bytes)
  /-- What a round has found. -/
  | round (round : Round)
  /-- The station, and whether the flag was raised. -/
  | collected (station : Option Station) (raised : Bool)
  /-- Whether the choice was a change. -/
  | chosen (changed : Bool)
  | done
  deriving DecidableEq

/-- A reception at a time. -/
structure TimedReception where
  reception : Reception
  now : Nat

/-- One event of a run. -/
structure Occurrence where
  /-- State before the event. -/
  before : TimedReception
  /-- The event. -/
  event : ReceptionEvent
  /-- What the event is answered with. -/
  answer : ReceptionAnswer
  /-- State after the event. -/
  after : TimedReception

namespace TimedReception

/-- A new reception, at the time zero. -/
def new (size interval : Nat) : TimedReception :=
  { reception := .new size interval, now := 0 }

/-- The state after an event, and the answer to it. -/
def perform (timed : TimedReception) :
    ReceptionEvent → Except Overflow (TimedReception × ReceptionAnswer)
  | .datagram bytes => do
      match ← timed.reception.receiveDatagram timed.now bytes with
      | (reception, .error error) => return ({ timed with reception }, .undecodable error)
      | (reception, .ok missed) => return ({ timed with reception }, .revealed missed)
  | .receive packet => do
      let (reception, missed) ← timed.reception.receive timed.now packet
      return ({ timed with reception }, .revealed missed)
  | .play => do
      let (reception, piece) ← timed.reception.play
      return ({ timed with reception }, .played piece)
  | .round forgotten =>
      let (reception, round) := timed.reception.nextRound timed.now forgotten
      .ok ({ timed with reception }, .round round)
  | .collect =>
      let (tuning, station, raised) := timed.reception.tuning.collect
      .ok ({ timed with reception := { timed.reception with tuning } }, .collected station raised)
  | .choose station =>
      let (tuning, changed) := timed.reception.tuning.choose station
      .ok ({ timed with reception := { timed.reception with tuning } }, .chosen changed)
  | .demand => .ok ({ timed with reception := timed.reception.demandRestart }, .done)
  | .reset => .ok ({ timed with reception := timed.reception.reset }, .done)
  | .wait duration => .ok ({ timed with now := timed.now + duration }, .done)

/-- The state after some events. -/
def run : TimedReception → List ReceptionEvent → Except Overflow TimedReception
  | timed, [] => .ok timed
  | timed, event :: events => do
      let (after, _) ← timed.perform event
      after.run events

/-- The record of some events. -/
def trace : TimedReception → List ReceptionEvent → Except Overflow (List Occurrence)
  | _, [] => .ok []
  | before, event :: events => do
      let (after, answer) ← before.perform event
      let record ← after.trace events
      return { before, event, answer, after } :: record

theorem trace_cons_eq_ok_iff {timed : TimedReception} {event : ReceptionEvent}
    {events : List ReceptionEvent} {record : List Occurrence} :
    timed.trace (event :: events) = .ok record ↔
      ∃ after answer rest, timed.perform event = .ok (after, answer) ∧
        after.trace events = .ok rest ∧ record = ⟨timed, event, answer, after⟩ :: rest := by
  rw [trace, Overflow.bind_eq_ok_iff]
  constructor
  · rintro ⟨⟨after, answer⟩, performed, remaining⟩
    obtain ⟨rest, traced, done⟩ := Overflow.bind_eq_ok_iff.mp remaining
    cases done
    exact ⟨after, answer, rest, performed, traced, rfl⟩
  · rintro ⟨after, answer, rest, performed, traced, rfl⟩
    exact ⟨(after, answer), performed, Overflow.bind_eq_ok_iff.mpr ⟨rest, traced, rfl⟩⟩

end TimedReception
end Playback
end AudioMulticast
