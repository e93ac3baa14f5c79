import AudioMulticast.Proofs.Playback.GapPursuit
import AudioMulticast.Proofs.Playback.ReceptionSteps
import AudioMulticast.Proofs.Playback.SharedReception

/-!
# Packets of a sender at a receiver

A receiver to which only packets of one sender arrive holds their payloads, and misses nothing that
the sender has not sent.  A packet that is missing fills its gap when it arrives.
-/

namespace AudioMulticast
namespace Playback

/-- An id that is aligned like those of some packets, and not above all of them. -/
structure Precedes (id : PacketId) (length : Nat) (packets : List AudioPacket) : Prop where
  aligned : length ∣ id.val
  le : ∃ packet ∈ packets, id.val ≤ packet.id.val

/-- A journal of some packets, each `length` bytes long. -/
structure Journal.DrawnFrom (journal : Journal) (length : Nat) (packets : List AudioPacket) :
    Prop where
  length_eq : ∀ session, journal.session = some session → session.length = length
  top_mem : ∀ session, journal.session = some session →
    ∃ packet ∈ packets, packet.id.val = session.top
  payload_mem : ∀ session id payload, journal.session = some session →
    session.payloads id = some payload →
      ∃ packet ∈ packets, packet.id.val = id ∧ packet.payload = payload

namespace Journal

variable {journal written : Journal} {length : Nat} {packets : List AudioPacket}
  {packet : AudioPacket} {id : PacketId} {missed : List PacketId}

theorem drawnFrom_of_none (none : journal.session = none) : journal.DrawnFrom length packets where
  length_eq := by simp [none]
  top_mem := by simp [none]
  payload_mem := by simp [none]

theorem DrawnFrom.mono (drawn : journal.DrawnFrom length packets) {more : List AudioPacket}
    (subset : packets ⊆ more) : journal.DrawnFrom length more where
  length_eq := drawn.length_eq
  top_mem := fun session found =>
    (drawn.top_mem session found).imp fun _ packet => packet.imp_left (@subset _)
  payload_mem := fun session id payload found remembered =>
    (drawn.payload_mem session id payload found remembered).imp fun _ packet =>
      packet.imp_left (@subset _)

theorem DrawnFrom.precedes_of_lacks (drawn : journal.DrawnFrom length packets)
    (lacks : journal.Lacks id) : Precedes id length packets := by
  obtain ⟨session, found, missing⟩ := lacks
  obtain ⟨⟨-, le_top⟩, aligned, -⟩ := SessionJournal.isMissing_iff.mp missing
  obtain ⟨packet, member, top_eq⟩ := drawn.top_mem session found
  exact ⟨drawn.length_eq session found ▸ aligned, packet, member, top_eq ▸ le_top⟩

theorem DrawnFrom.write (drawn : journal.DrawnFrom length packets) (member : packet ∈ packets)
    (length_eq : packet.payload.length = length)
    (write_eq : journal.write packet.id packet.payload = .ok (written, missed)) :
    written.DrawnFrom length packets := by
  obtain ⟨-, rfl, -⟩ := write_eq_ok write_eq
  refine ⟨?_, ?_, ?_⟩
  · rintro _ ⟨⟩
    cases found : journal.session with
    | none => simpa only [accept, found, SessionJournal.start] using length_eq
    | some session =>
        simpa only [accept, found, SessionJournal.accept] using drawn.length_eq session found
  · rintro _ ⟨⟩
    cases found : journal.session with
    | none => exact ⟨packet, member, by simp only [accept, found, SessionJournal.start]⟩
    | some session =>
        simp only [accept, found, SessionJournal.accept]
        rcases Nat.le_total packet.id.val session.top with below | above
        · rw [Nat.max_eq_left below]
          exact drawn.top_mem session found
        · exact ⟨packet, member, (Nat.max_eq_right above).symm⟩
  · rintro _ id payload ⟨⟩ remembered
    rcases payloads_of_accept remembered with ⟨rfl, rfl⟩ | ⟨session, found, before⟩
    · exact ⟨packet, member, rfl, rfl⟩
    · exact drawn.payload_mem session id payload found before

theorem DrawnFrom.read (drawn : journal.DrawnFrom length packets) :
    journal.read.1.DrawnFrom length packets := by
  cases found : journal.session with
  | none => exact drawnFrom_of_none (by simp only [Journal.read, found])
  | some session =>
      have read_session : journal.read.1.session = some session.read.1 := by
        simp only [Journal.read, found]
      refine ⟨?_, ?_, ?_⟩
      · rw [read_session]
        rintro _ ⟨⟩
        rw [SessionJournal.read_length]
        exact drawn.length_eq session found
      · rw [read_session]
        rintro _ ⟨⟩
        rw [SessionJournal.read_top]
        exact drawn.top_mem session found
      · rw [read_session]
        rintro _ id payload ⟨⟩
        rw [SessionJournal.read_payloads]
        exact drawn.payload_mem session id payload found

/-- What a packet reveals comes before it. -/
theorem DrawnFrom.precedes_of_mem_missed (drawn : journal.DrawnFrom length packets)
    (member : packet ∈ packets)
    (write_eq : journal.write packet.id packet.payload = .ok (written, missed))
    (revealed : id ∈ missed) : Precedes id length packets := by
  obtain ⟨-, -, rfl⟩ := write_eq_ok write_eq
  cases found : journal.session with
  | none =>
      simp only [accept, found] at revealed
      cases revealed
  | some session =>
      simp only [accept, found] at revealed
      obtain ⟨less, aligned, -⟩ := SessionJournal.mem_revealed.mp revealed
      exact ⟨drawn.length_eq session found ▸ aligned, packet, member, less.le⟩

/-- A packet that is missing is accepted when it arrives, reveals nothing, and is in its slot then. -/
theorem Valid.write_of_lacks (valid : journal.Valid) (lacks : journal.Lacks packet.id)
    (drawn : journal.DrawnFrom packet.payload.length packets) :
    ∃ written, journal.write packet.id packet.payload = .ok (written, []) ∧
      ¬written.Lacks packet.id ∧ written.window.Holds packet.id.val packet.payload := by
  obtain ⟨session, found, missing⟩ := lacks
  obtain ⟨⟨next_le, le_top⟩, aligned, -⟩ := SessionJournal.isMissing_iff.mp missing
  have length_eq := drawn.length_eq session found
  have session_valid := valid.session_valid session found
  have accepted : journal.rejection? packet.id packet.payload = none :=
    (accepted_iff_of_some found).mpr ⟨length_eq.symm, aligned⟩
  have accept_eq : journal.accept packet.id packet.payload =
      (session.accept packet.id packet.payload, []) := by
    simp only [Journal.accept, found, SessionJournal.revealed_of_le_top packet.payload le_top]
  have stored :
      (session.accept packet.id packet.payload).payloads packet.id.val = some packet.payload :=
    Function.update_self _ _ _
  refine ⟨{ journal with session := some (session.accept packet.id packet.payload) }, ?_, ?_, ?_⟩
  · rw [Journal.write, accepted, accept_eq]
  · rintro ⟨_, ⟨⟩, lacking⟩
    obtain ⟨-, -, absent⟩ := SessionJournal.isMissing_iff.mp lacking
    rw [stored] at absent
    cases absent
  · have unmoved : (session.accept packet.id packet.payload).next = session.next := by
      rw [session_valid.accept_of_le_top packet.payload le_top]
    have slot_eq := (session_valid.accept packet.payload aligned).getElem?_slots aligned
      (unmoved.trans_le next_le) (le_max_right _ _)
    rw [stored, unmoved] at slot_eq
    refine ⟨_, _, rfl, slot_eq, ?_⟩
    rw [SessionJournal.window_front, SessionJournal.window_payloadLength, unmoved,
      SessionJournal.accept_length,
      Nat.mul_div_cancel' (Nat.dvd_sub aligned session_valid.length_dvd_next)]
    exact (Nat.add_sub_cancel' next_le).symm

end Journal

namespace TimedReception

variable {before after timed : TimedReception} {journal result : Journal} {event : ReceptionEvent}
  {answer : ReceptionAnswer} {length : Nat} {packets : List AudioPacket} {packet : AudioPacket}
  {session : SessionId} {id : PacketId}

/-- Whether the packet that an event brings, if it brings one, is one of those that were sent. -/
def Brings (session : SessionId) (packets : List AudioPacket) (event : ReceptionEvent) : Prop :=
  ∀ arrived, event.packet? = some arrived → ∃ packet ∈ packets, arrived = packet.stamp session

theorem Effect.drawnFrom (effect : before.Effect after journal event answer result)
    (drawn : journal.DrawnFrom length packets) (brings : Brings session packets event)
    (lengths : ∀ packet ∈ packets, packet.payload.length = length) :
    result.DrawnFrom length packets := by
  cases effect with
  | write arrives write_eq gaps_eq now_eq =>
      obtain ⟨packet, member, rfl⟩ := brings _ arrives
      exact drawn.write member (lengths packet member) write_eq
  | play gaps_eq now_eq => exact drawn.read
  | round gaps_eq request_eq forget_eq now_eq => exact drawn
  | reset gaps_eq now_eq => exact Journal.drawnFrom_of_none rfl
  | keep gaps_eq now_le missed_eq round_eq => exact drawn

/-- Whatever is reported as missing or requested comes before a packet that was sent. -/
theorem Effect.precedes (effect : before.Effect after journal event answer result)
    (follows : before.reception.Follows journal) (drawn : journal.DrawnFrom length packets)
    (brings : Brings session packets event) (named : id ∈ answer.missed ∨ id ∈ answer.requested) :
    Precedes id length packets := by
  cases effect with
  | write arrives write_eq gaps_eq now_eq =>
      obtain ⟨packet, member, rfl⟩ := brings _ arrives
      rcases named with revealed | requested
      · exact drawn.precedes_of_mem_missed member write_eq revealed
      · cases requested
  | play gaps_eq now_eq => simp [ReceptionAnswer.missed, ReceptionAnswer.requested] at named
  | @round forgotten round gaps_eq request_eq forget_eq now_eq =>
      rcases named with missed | requested
      · cases missed
      · have requested : id ∈ round.request := requested
        rw [request_eq, List.mem_filter] at requested
        exact drawn.precedes_of_lacks (follows.isMissing_iff.mp requested.2)
  | reset gaps_eq now_eq => simp [ReceptionAnswer.missed, ReceptionAnswer.requested] at named
  | keep gaps_eq now_le missed_eq round_eq =>
      simp [missed_eq, ReceptionAnswer.requested_eq_nil round_eq] at named

/-- A datagram with a packet that is missing fills the gap, while the session is the one that is
played. -/
theorem perform_datagram_of_isMissing (follows : timed.reception.Follows journal)
    (drawn : journal.DrawnFrom packet.payload.length packets)
    (lowered : timed.reception.tuning.restart = false)
    (current : timed.reception.tuning.session = session) {datagram : Bytes}
    (decoded : DataPacket.decode datagram = .ok (packet.stamp session))
    (missing : timed.reception.window.isMissing packet.id) :
    ∃ after, timed.perform (.datagram datagram) = .ok (after, .revealed []) ∧
      ¬after.reception.window.isMissing packet.id ∧
        after.reception.window.Holds packet.id.val packet.payload := by
  have lacks := follows.isMissing_iff.mp missing
  obtain ⟨written, write_eq, filled, holds⟩ := follows.valid.write_of_lacks lacks drawn
  have fits : journal.Fits (.write packet.id packet.payload) := by
    intro none
    obtain ⟨session, found, -⟩ := lacks
    rw [none] at found
    cases found
  have received : timed.reception.receive timed.now (packet.stamp session) =
      .ok ({ timed.reception with
        window := written.window
        gaps := timed.reception.gaps.add [] timed.now }, []) :=
    follows.receive_of_write lowered current.symm fits write_eq
  have received_datagram : timed.reception.receiveDatagram timed.now datagram =
      .ok ({ timed.reception with
        window := written.window
        gaps := timed.reception.gaps.add [] timed.now }, .ok []) := by
    rw [Reception.receiveDatagram, decoded]
    simp only [received]
    rfl
  refine ⟨_, by rw [perform, received_datagram]; rfl, ?_, holds⟩
  rw [Reception.Follows.isMissing_iff ⟨follows.valid.write write_eq, rfl⟩]
  exact filled

end TimedReception
end Playback
end AudioMulticast
