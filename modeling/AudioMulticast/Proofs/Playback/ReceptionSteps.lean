import AudioMulticast.Proofs.Playback.ReceptionJournal
import AudioMulticast.Proofs.Playback.ReceptionTrace

/-!
# What an event does to a reception

Whatever happens to a reception is one of five things to the journal of its window and to the
schedule: a packet is accepted, audio is taken, a round takes place, everything is forgotten, or
neither changes.
-/

namespace AudioMulticast
namespace Playback
namespace ReceptionAnswer

/-- The packets that are reported as missing. -/
def missed : ReceptionAnswer → List PacketId
  | .revealed missed => missed
  | _ => []

/-- The packets that are to be requested. -/
def requested : ReceptionAnswer → List PacketId
  | .round found => found.request
  | _ => []

/-- What a round has found, if a round took place. -/
def round? : ReceptionAnswer → Option Round
  | .round found => some found
  | _ => none

theorem requested_eq_nil {answer : ReceptionAnswer} (quiet : answer.round? = none) :
    answer.requested = [] := by
  cases answer with
  | round found => cases quiet
  | _ => rfl

end ReceptionAnswer

/-- The packet that an event brings, if it brings one. -/
def ReceptionEvent.packet? : ReceptionEvent → Option DataPacket
  | .datagram bytes => (DataPacket.decode bytes).toOption
  | .receive packet => some packet
  | _ => none

theorem Reception.nextRound_eq (reception : Reception) (now : Nat) (forgotten : List PacketId) :
    reception.nextRound now forgotten =
      ({ reception with gaps := (reception.gaps.next forgotten now).1 },
        { request := (reception.gaps.next forgotten now).2.filter reception.window.isMissing
          forget :=
            (reception.gaps.next forgotten now).2.filter
              fun id => !reception.window.isMissing id }) := by
  simp only [nextRound, Window.split_eq]

namespace Reception

variable {reception : Reception} {journal written : Journal} {now : Nat} {packet : DataPacket}
  {missed : List PacketId} {payload : Bytes}

/-- A packet of the session that is played is received if the journal accepts it. -/
theorem Follows.receive_of_write (follows : reception.Follows journal)
    (lowered : reception.tuning.restart = false)
    (current : packet.session = reception.tuning.session)
    (fits : journal.Fits (.write packet.id packet.payload))
    (write_eq : journal.write packet.id packet.payload = .ok (written, missed)) :
    reception.receive now packet =
      .ok ({ reception with window := written.window, gaps := reception.gaps.add missed now },
        missed) := by
  have screened : reception.screen packet.session = (reception, false) := by
    rw [Reception.screen, Tuning.screen_eq_accepted_iff.mpr ⟨rfl, lowered, current⟩]
  have window_eq : reception.window.write packet.id packet.payload =
      .ok (.ok (written.window, missed)) := by
    rw [follows.window_eq, follows.valid.window_write fits, write_eq]
    rfl
  simp only [Reception.receive, screened, Reception.store, window_eq]
  rfl

/-- Playback takes the piece that the journal finds. -/
theorem Follows.play_of_read (follows : reception.Follows journal) (fits : journal.Fits .read)
    (read_eq : journal.read = (written, .chunk payload)) :
    reception.play = .ok ({ reception with window := written.window }, some payload) := by
  rw [Reception.play, follows.window_eq, follows.valid.window_read fits, read_eq]
  rfl

end Reception

namespace TimedReception

/-- What an event does to the packets and to the schedule. -/
inductive Effect (before after : TimedReception) (journal : Journal) :
    ReceptionEvent → ReceptionAnswer → Journal → Prop where
  /-- A packet is accepted, and those that it reveals are scheduled. -/
  | write {event : ReceptionEvent} {packet : DataPacket} {written : Journal}
      {missed : List PacketId} (arrives : event.packet? = some packet)
      (write_eq : journal.write packet.id packet.payload = .ok (written, missed))
      (gaps_eq : after.reception.gaps = before.reception.gaps.add missed before.now)
      (now_eq : after.now = before.now) :
      Effect before after journal event (.revealed missed) written
  /-- Playback takes the packet at the cursor, or none. -/
  | play {piece : Option Bytes} (gaps_eq : after.reception.gaps = before.reception.gaps)
      (now_eq : after.now = before.now) :
      Effect before after journal .play (.played piece) journal.read.1
  /-- The packets that are due are divided into those that are missing and the others. -/
  | round {forgotten : List PacketId} {round : Round}
      (gaps_eq :
        after.reception.gaps = (before.reception.gaps.next forgotten before.now).1)
      (request_eq : round.request =
        (before.reception.gaps.next forgotten before.now).2.filter before.reception.window.isMissing)
      (forget_eq : round.forget =
        (before.reception.gaps.next forgotten before.now).2.filter
          fun id => !before.reception.window.isMissing id)
      (now_eq : after.now = before.now) :
      Effect before after journal (.round forgotten) (.round round) journal
  /-- Packets and schedule are forgotten. -/
  | reset (gaps_eq : after.reception.gaps = before.reception.gaps.clear)
      (now_eq : after.now = before.now) :
      Effect before after journal .reset .done { size := journal.size }
  /-- Only the station, the session, the flag or the time changes. -/
  | keep {event : ReceptionEvent} {answer : ReceptionAnswer}
      (gaps_eq : after.reception.gaps = before.reception.gaps) (now_le : before.now ≤ after.now)
      (missed_eq : answer.missed = []) (round_eq : answer.round? = none) :
      Effect before after journal event answer journal

variable {before after : TimedReception} {journal : Journal} {event : ReceptionEvent}
  {answer : ReceptionAnswer}

theorem exists_effect_of_receive (follows : before.reception.Follows journal)
    {packet : DataPacket} {received : Reception} {missed : List PacketId}
    (arrives : event.packet? = some packet)
    (done : before.reception.receive before.now packet = .ok (received, missed)) :
    ∃ result, received.Follows result ∧
      Effect before { before with reception := received } journal event (.revealed missed)
        result := by
  have screened :
      (before.reception.screen packet.session).1.Follows journal :=
    ⟨follows.valid, follows.window_eq⟩
  rcases Reception.receive_cases done with ⟨rfl, rfl⟩ | stored
  · exact ⟨journal, screened, .keep rfl (Nat.le_refl _) rfl rfl⟩
  · rcases screened.store_cases stored with ⟨rfl, rfl⟩ | ⟨written, write_eq, followed, rfl⟩
    · exact ⟨journal, screened, .keep rfl (Nat.le_refl _) rfl rfl⟩
    · exact ⟨written, followed, .write arrives write_eq rfl rfl⟩

theorem exists_effect (follows : before.reception.Follows journal)
    (performed : before.perform event = .ok (after, answer)) :
    ∃ result, after.reception.Follows result ∧
      Effect before after journal event answer result := by
  cases event with
  | datagram bytes =>
      obtain ⟨⟨received, outcome⟩, received_eq, done⟩ := Overflow.bind_eq_ok_iff.mp performed
      rw [Reception.receiveDatagram] at received_eq
      cases decoded : DataPacket.decode bytes with
      | error error =>
          rw [decoded] at received_eq
          cases received_eq
          cases done
          exact ⟨journal, follows, .keep rfl (Nat.le_refl _) rfl rfl⟩
      | ok packet =>
          rw [decoded] at received_eq
          obtain ⟨⟨reception, missed⟩, receive_eq, rest⟩ :=
            Overflow.bind_eq_ok_iff.mp received_eq
          cases rest
          cases done
          have arrives : (ReceptionEvent.datagram bytes).packet? = some packet := by
            simp only [ReceptionEvent.packet?, decoded, Except.toOption]
          exact exists_effect_of_receive follows arrives receive_eq
  | receive packet =>
      obtain ⟨⟨received, missed⟩, receive_eq, done⟩ := Overflow.bind_eq_ok_iff.mp performed
      cases done
      exact exists_effect_of_receive follows rfl receive_eq
  | play =>
      obtain ⟨⟨played, piece⟩, play_eq, done⟩ := Overflow.bind_eq_ok_iff.mp performed
      cases done
      obtain ⟨played_follows, gaps_eq, -⟩ := follows.play_cases play_eq
      exact ⟨_, played_follows, .play gaps_eq rfl⟩
  | round forgotten =>
      rw [perform, Reception.nextRound_eq] at performed
      cases performed
      exact ⟨journal, ⟨follows.valid, follows.window_eq⟩, .round rfl rfl rfl rfl⟩
  | collect =>
      cases performed
      exact ⟨journal, ⟨follows.valid, follows.window_eq⟩, .keep rfl (Nat.le_refl _) rfl rfl⟩
  | choose station =>
      cases performed
      exact ⟨journal, ⟨follows.valid, follows.window_eq⟩, .keep rfl (Nat.le_refl _) rfl rfl⟩
  | demand =>
      cases performed
      exact ⟨journal, ⟨follows.valid, follows.window_eq⟩, .keep rfl (Nat.le_refl _) rfl rfl⟩
  | reset =>
      cases performed
      exact ⟨_, follows.reset, .reset rfl rfl⟩
  | wait duration =>
      cases performed
      exact ⟨journal, follows, .keep rfl (Nat.le_add_right _ _) rfl rfl⟩

end TimedReception
end Playback
end AudioMulticast
