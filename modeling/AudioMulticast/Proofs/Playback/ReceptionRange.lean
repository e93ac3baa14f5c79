import AudioMulticast.Listening.Config
import AudioMulticast.Proofs.Playback.ReceptionSteps

/-!
# When a reception overflows

Two numbers can leave the range of a word, whatever arrives and in whatever order a reception is
used.  The first packet of a session triples the number of packets that the window can hold, and
playback adds the payload length to the id of the packet that it takes.  Nothing else overflows: not
the threshold, not the reach of the window, not the ids of skipped packets.  Times, which have no
upper bound, are not among the numbers that could.
-/

namespace AudioMulticast

namespace Playback
namespace Journal

variable {journal : Journal} {id : PacketId} {payload : Bytes} {overflow : Overflow}

/-- A write overflows only where it opens a session that is too long for a window. -/
theorem Valid.window_write_eq_error_iff (valid : journal.Valid) :
    journal.window.write id payload = .error overflow ↔
      (journal.session = none ∧ journal.rejection? id payload = none ∧
        Word.count ≤ 3 * max 1 (journal.size / payload.length)) ∧ overflow = .multiplication := by
  by_cases fits : journal.Fits (.write id payload)
  · rw [valid.window_write fits]
    refine iff_of_false (by rintro ⟨⟩) ?_
    rintro ⟨⟨empty, accepted, tripled_ge⟩, -⟩
    exact absurd (fits empty accepted) (Nat.not_lt.mpr tripled_ge)
  · simp only [Fits, Classical.not_imp, Nat.not_lt] at fits
    obtain ⟨empty, accepted, tripled_ge⟩ := fits
    have stopped : journal.window.write id payload = .error .multiplication := by
      rw [Window.write, valid.window_rejection?, accepted]
      simp only [Window.store, window, empty, Option.map_none,
        SessionJournal.start_eq_error tripled_ge]
      rfl
    rw [stopped]
    constructor
    · rintro ⟨⟩
      exact ⟨⟨empty, accepted, tripled_ge⟩, rfl⟩
    · rintro ⟨-, rfl⟩
      rfl

end Journal

/-- A read overflows only where it takes a packet that does not end in the range of a word. -/
theorem Window.read_eq_error_iff {window : Window} {overflow : Overflow} :
    window.read = .error overflow ↔
      (∃ session payload later, window.session = some session ∧ session.started = true ∧
        session.slots = some payload :: later ∧
        Word.count ≤ session.front + session.payloadLength) ∧ overflow = .addition := by
  obtain ⟨size, session⟩ := window
  cases session with
  | none => simp [read]
  | some session =>
      cases started : session.started with
      | false => simp [read, started]
      | true =>
          cases slots_eq : session.slots with
          | nil => simp [read, started, slots_eq]
          | cons slot later =>
              cases slot with
              | none => simp [read, started, slots_eq]
              | some payload =>
                  simp only [read, started, if_true, slots_eq, Overflow.bind_eq_error_iff,
                    Word.add_eq_error_iff]
                  simp [pure, Except.pure, started, slots_eq]

namespace Reception

variable {reception : Reception} {journal : Journal} {now : Nat} {packet : DataPacket}
  {overflow : Overflow}

/-- A first packet opens a session in a window that can hold a third of all words or more. -/
structure Overfills (reception : Reception) (packet : DataPacket) : Prop where
  lowered : reception.tuning.restart = false
  current : packet.session = reception.tuning.session
  empty : reception.window.session = none
  payload_ne : packet.payload ≠ []
  aligned : packet.payload.length ∣ packet.id.val
  tripled_ge : Word.count ≤ 3 * max 1 (reception.window.size / packet.payload.length)

/-- The packet to be played next does not end in the range of a word. -/
structure EndsOutside (reception : Reception) (session : WindowSession) : Prop where
  found : reception.window.session = some session
  started : session.started = true
  received : ∃ payload later, session.slots = some payload :: later
  end_ge : Word.count ≤ session.front + session.payloadLength

theorem store_eq_error_iff :
    reception.store now packet = .error overflow ↔
      reception.window.write packet.id packet.payload = .error overflow := by
  rw [store, Overflow.bind_eq_error_iff]
  refine or_iff_left ?_
  rintro ⟨answer, -, stored⟩
  split at stored
  all_goals cases stored

theorem receive_eq_error_iff :
    reception.receive now packet = .error overflow ↔
      (reception.tuning.restart = false ∧ packet.session = reception.tuning.session) ∧
        reception.store now packet = .error overflow := by
  rw [receive, screen]
  by_cases current :
      reception.tuning.restart = false ∧ packet.session = reception.tuning.session
  · have same : reception.tuning.screen packet.session = (reception.tuning, false) :=
      Tuning.screen_eq_accepted_iff.mpr ⟨rfl, current⟩
    simp only [same]
    exact (and_iff_right current).symm
  · refine iff_of_false ?_ fun accepted => current accepted.1
    cases screened_eq : reception.tuning.screen packet.session with
    | mk screened ignored =>
        cases ignored with
        | false => exact absurd (Tuning.screen_eq_accepted_iff.mp screened_eq).2 current
        | true => rintro ⟨⟩

/-- A packet overflows only where it overfills the window. -/
theorem Follows.receive_eq_error_iff (follows : reception.Follows journal) :
    reception.receive now packet = .error overflow ↔
      reception.Overfills packet ∧ overflow = .multiplication := by
  have empty_iff := follows.session_eq_none_iff
  have size_eq := follows.size_eq
  rw [Reception.receive_eq_error_iff, store_eq_error_iff, follows.window_eq,
    follows.valid.window_write_eq_error_iff]
  constructor
  · rintro ⟨⟨lowered, current⟩, ⟨empty, accepted, tripled_ge⟩, same⟩
    obtain ⟨payload_ne, aligned⟩ := (Journal.accepted_iff_of_none empty).mp accepted
    rw [← size_eq] at tripled_ge
    exact ⟨⟨lowered, current, empty_iff.mpr empty, payload_ne, aligned, tripled_ge⟩, same⟩
  · rintro ⟨⟨lowered, current, empty, payload_ne, aligned, tripled_ge⟩, same⟩
    rw [empty_iff] at empty
    rw [size_eq] at tripled_ge
    have accepted := (Journal.accepted_iff_of_none empty).mpr ⟨payload_ne, aligned⟩
    exact ⟨⟨lowered, current⟩, ⟨empty, accepted, tripled_ge⟩, same⟩

theorem receiveDatagram_eq_error_iff {datagram : Bytes} :
    reception.receiveDatagram now datagram = .error overflow ↔
      ∃ packet, (ReceptionEvent.datagram datagram).packet? = some packet ∧
        reception.receive now packet = .error overflow := by
  rw [receiveDatagram, ReceptionEvent.packet?]
  cases decoded : DataPacket.decode datagram with
  | error error => simp [Except.toOption]
  | ok packet =>
      simp only [Overflow.bind_eq_error_iff, Except.toOption, Option.some.injEq, exists_eq_left']
      refine or_iff_left ?_
      rintro ⟨_, -, done⟩
      cases done

theorem play_eq_error_iff :
    reception.play = .error overflow ↔
      (∃ session, reception.EndsOutside session) ∧ overflow = .addition := by
  have window_iff :
      reception.play = .error overflow ↔ reception.window.read = .error overflow := by
    rw [play, Overflow.bind_eq_error_iff]
    refine or_iff_left ?_
    rintro ⟨⟨window, reading⟩, -, played⟩
    cases reading with
    | nothing => cases played
    | chunk payload => cases played
    | hole id => cases played
  rw [window_iff, Window.read_eq_error_iff]
  refine and_congr_left fun _ => ⟨?_, ?_⟩
  · rintro ⟨session, payload, later, found, started, slots_eq, end_ge⟩
    exact ⟨session, found, started, ⟨payload, later, slots_eq⟩, end_ge⟩
  · rintro ⟨session, found, started, ⟨payload, later, slots_eq⟩, end_ge⟩
    exact ⟨session, payload, later, found, started, slots_eq, end_ge⟩

end Reception

namespace TimedReception

/-- When an event leaves the range of a word. -/
inductive Exceeds (timed : TimedReception) : ReceptionEvent → Overflow → Prop where
  | arrival {event : ReceptionEvent} {packet : DataPacket} (arrives : event.packet? = some packet)
      (overfills : timed.reception.Overfills packet) : Exceeds timed event .multiplication
  | play {session : WindowSession} (ends : timed.reception.EndsOutside session) :
      Exceeds timed .play .addition

variable {timed : TimedReception} {journal : Journal} {event : ReceptionEvent} {overflow : Overflow}

/-- In a state that follows a journal, an event overflows exactly where it exceeds the range. -/
theorem perform_eq_error_iff (follows : timed.reception.Follows journal) :
    timed.perform event = .error overflow ↔ timed.Exceeds event overflow := by
  cases event with
  | datagram bytes =>
      have arrived :
          timed.perform (.datagram bytes) = .error overflow ↔
            timed.reception.receiveDatagram timed.now bytes = .error overflow := by
        rw [perform, Overflow.bind_eq_error_iff]
        refine or_iff_left ?_
        rintro ⟨⟨reception, outcome⟩, -, done⟩
        cases outcome with
        | error error => cases done
        | ok missed => cases done
      rw [arrived, Reception.receiveDatagram_eq_error_iff]
      constructor
      · rintro ⟨packet, arrives, received⟩
        obtain ⟨overfills, rfl⟩ := follows.receive_eq_error_iff.mp received
        exact .arrival arrives overfills
      · rintro ⟨arrives, overfills⟩
        exact ⟨_, arrives, follows.receive_eq_error_iff.mpr ⟨overfills, rfl⟩⟩
  | receive packet =>
      rw [perform, Overflow.bind_eq_error_iff, follows.receive_eq_error_iff, or_iff_left]
      · constructor
        · rintro ⟨overfills, rfl⟩
          exact .arrival rfl overfills
        · rintro ⟨⟨⟩, overfills⟩
          exact ⟨overfills, rfl⟩
      · rintro ⟨_, -, done⟩
        cases done
  | play =>
      rw [perform, Overflow.bind_eq_error_iff, Reception.play_eq_error_iff, or_iff_left]
      · constructor
        · rintro ⟨⟨session, ends⟩, rfl⟩
          exact .play ends
        · intro exceeds
          cases exceeds with
          | arrival arrives _ => cases arrives
          | play ends => exact ⟨⟨_, ends⟩, rfl⟩
      · rintro ⟨_, -, done⟩
        cases done
  | round forgotten => exact ⟨by rintro ⟨⟩, by rintro ⟨⟨⟩⟩⟩
  | collect => exact ⟨by rintro ⟨⟩, by rintro ⟨⟨⟩⟩⟩
  | choose station => exact ⟨by rintro ⟨⟩, by rintro ⟨⟨⟩⟩⟩
  | demand => exact ⟨by rintro ⟨⟩, by rintro ⟨⟨⟩⟩⟩
  | reset => exact ⟨by rintro ⟨⟩, by rintro ⟨⟨⟩⟩⟩
  | wait duration => exact ⟨by rintro ⟨⟩, by rintro ⟨⟨⟩⟩⟩

theorem run_eq_error_iff_of_follows {events : List ReceptionEvent}
    (follows : timed.reception.Follows journal) :
    timed.run events = .error overflow ↔
      ∃ earlier event later reached, events = earlier ++ event :: later ∧
        timed.run earlier = .ok reached ∧ reached.Exceeds event overflow := by
  induction events generalizing timed journal with
  | nil => simp [run]
  | cons event events ih =>
      rw [run, Overflow.bind_eq_error_iff, perform_eq_error_iff follows]
      constructor
      · rintro (exceeds | ⟨⟨after, answer⟩, performed, failed⟩)
        · exact ⟨[], event, events, timed, rfl, rfl, exceeds⟩
        · obtain ⟨result, followed, -⟩ := exists_effect follows performed
          obtain ⟨earlier, last, later, reached, rfl, run_eq, exceeds⟩ := (ih followed).mp failed
          refine ⟨event :: earlier, last, later, reached, rfl, ?_, exceeds⟩
          rw [run, performed]
          exact run_eq
      · rintro ⟨earlier, last, later, reached, split, run_eq, exceeds⟩
        cases earlier with
        | nil =>
            cases split
            cases run_eq
            exact .inl exceeds
        | cons first earlier =>
            cases split
            obtain ⟨⟨after, answer⟩, performed, run_eq⟩ := Overflow.bind_eq_ok_iff.mp run_eq
            obtain ⟨result, followed, -⟩ := exists_effect follows performed
            refine .inr ⟨(after, answer), performed, (ih followed).mpr ?_⟩
            exact ⟨earlier, last, later, reached, rfl, run_eq, exceeds⟩

/-- A run overflows exactly where a first packet opens a session in a window that can hold a third
of all words or more, or playback takes a packet that does not end in the range of a word.  The
interval and the times in the run are any numbers. -/
theorem run_eq_error_iff (size : Word) (interval : Nat) (events : List ReceptionEvent)
    (overflow : Overflow) :
    (new size.val interval).run events = .error overflow ↔
      ∃ earlier event later reached, events = earlier ++ event :: later ∧
        (new size.val interval).run earlier = .ok reached ∧ reached.Exceeds event overflow :=
  run_eq_error_iff_of_follows (Reception.follows_new size interval)

/-! ## Packets that end in the range -/

/-- As long as packets end in the range, so does the packet after the highest one. -/
theorem Effect.inRange {after : TimedReception} {answer : ReceptionAnswer} {result : Journal}
    (effect : timed.Effect after journal event answer result) (inRange : journal.InRange)
    (size_lt : 3 * max 1 journal.size < Word.count)
    (ends : ∀ packet, event.packet? = some packet →
      packet.id.val + packet.payload.length < Word.count) :
    result.InRange ∧ result.size = journal.size := by
  cases effect with
  | @write event packet written missed arrives write_eq gaps_eq now_eq =>
      have admits : journal.Admits (.write packet.id packet.payload) := by
        intro _
        refine ⟨ends packet arrives, fun _ => ?_⟩
        have := Nat.div_le_self journal.size packet.payload.length
        omega
      have followed := Journal.inRange_perform inRange admits
      rw [Journal.perform, write_eq] at followed
      obtain ⟨-, rfl, -⟩ := Journal.write_eq_ok write_eq
      exact ⟨followed, rfl⟩
  | play gaps_eq now_eq =>
      have admits : journal.Admits .read := trivial
      refine ⟨Journal.inRange_perform inRange admits, ?_⟩
      exact Journal.perform_size journal .read
  | round => exact ⟨inRange, rfl⟩
  | reset => exact ⟨by rintro _ ⟨⟩, rfl⟩
  | keep => exact ⟨inRange, rfl⟩

theorem exists_inRange_of_run {events : List ReceptionEvent} {reached : TimedReception}
    (follows : timed.reception.Follows journal) (inRange : journal.InRange)
    (size_lt : 3 * max 1 journal.size < Word.count)
    (ends : ∀ event ∈ events, ∀ packet, event.packet? = some packet →
      packet.id.val + packet.payload.length < Word.count)
    (run_eq : timed.run events = .ok reached) :
    ∃ result, reached.reception.Follows result ∧ result.InRange ∧ result.size = journal.size := by
  induction events generalizing timed journal with
  | nil =>
      cases run_eq
      exact ⟨journal, follows, inRange, rfl⟩
  | cons event events ih =>
      obtain ⟨⟨after, answer⟩, performed, run_eq⟩ := Overflow.bind_eq_ok_iff.mp run_eq
      obtain ⟨result, followed, effect⟩ := exists_effect follows performed
      obtain ⟨inRange, size_eq⟩ := effect.inRange inRange size_lt (ends event List.mem_cons_self)
      rw [← size_eq] at size_lt ⊢
      exact ih followed inRange size_lt
        (fun event member => ends event (List.mem_cons_of_mem _ member)) run_eq

theorem not_endsOutside (follows : timed.reception.Follows journal) (inRange : journal.InRange)
    (session : WindowSession) : ¬timed.reception.EndsOutside session := by
  rintro ⟨found, started, ⟨payload, later, slots_eq⟩, end_ge⟩
  rw [follows.window_eq, Journal.window, Option.map_eq_some_iff] at found
  obtain ⟨remembered, found, rfl⟩ := found
  have next_le : remembered.next ≤ remembered.top := by
    by_contra caughtUp
    have empty := (follows.valid.session_valid _ found).slots_eq_nil (Nat.lt_of_not_le caughtUp)
    rw [slots_eq] at empty
    cases empty
  have := inRange remembered found
  rw [SessionJournal.window_front, SessionJournal.window_payloadLength] at end_ge
  omega

/-- Nothing overflows as long as the window is smaller than a third of all words and every packet
ends in the range of a word. -/
theorem exists_run_eq_ok {size : Word} {interval : Nat} {events : List ReceptionEvent}
    (size_lt : 3 * max 1 size.val < Word.count)
    (ends : ∀ event ∈ events, ∀ packet, event.packet? = some packet →
      packet.id.val + packet.payload.length < Word.count) :
    ∃ last, (new size.val interval).run events = .ok last := by
  cases run_eq : (new size.val interval).run events with
  | ok last => exact ⟨last, rfl⟩
  | error overflow =>
      obtain ⟨earlier, event, later, reached, rfl, run_eq, exceeds⟩ :=
        (run_eq_error_iff_of_follows (Reception.follows_new size interval)).mp run_eq
      obtain ⟨journal, follows, inRange, size_eq⟩ :=
        exists_inRange_of_run (Reception.follows_new size interval) (by rintro _ ⟨⟩) size_lt
          (fun event member => ends event (List.mem_append_left _ member)) run_eq
      exfalso
      cases exceeds with
      | @arrival _ packet arrives overfills =>
          have tripled_ge := overfills.tripled_ge
          have window_size : reached.reception.window.size = size.val :=
            follows.size_eq.trans size_eq
          have := Nat.div_le_self size.val packet.payload.length
          rw [window_size] at tripled_ge
          omega
      | play outside => exact not_endsOutside follows inRange _ outside

/-- The last packet of all is received, and then played. -/
def lastPacketPlayed : List ReceptionEvent :=
  [.datagram [0, 0, 0, 0, 0, 0, 0, 0, 255, 255, 255, 255, 255, 255, 255, 255, 7], .play]

/-- Not every run of a receiver with valid settings has a result. -/
theorem not_forall_run_eq_ok :
    ¬∀ (config : Listening.Config) (events : List ReceptionEvent), config.validate = .ok () →
      config.bufferSize < Word.count →
        ∃ last, (new config.bufferSize config.requestInterval).run events = .ok last := by
  intro finishes
  have failed :
      ((new 65536 250).run lastPacketPlayed).map (fun _ => ()) = .error .addition := by
    decide +kernel
  obtain ⟨last, run_eq⟩ := finishes {} lastPacketPlayed (by decide) (by decide)
  rw [run_eq] at failed
  cases failed

end TimedReception
end Playback
end AudioMulticast
