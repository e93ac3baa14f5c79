import AudioMulticast.Playback.Reception
import AudioMulticast.Proofs.Playback.JournalRun
import AudioMulticast.Proofs.Stations.TuningSteps

/-!
# Receptions and the journals of their windows

What each operation of a reception does to its parts, where the window is that of a journal.  An
operation that has a result did not overflow, so nothing is asked of the packets.
-/

namespace AudioMulticast
namespace Playback
namespace Reception

/-- The window of a reception has a valid journal. -/
structure Follows (reception : Reception) (journal : Journal) : Prop where
  valid : journal.Valid
  window_eq : reception.window = journal.window

variable {reception received : Reception} {journal : Journal} {now : Nat} {packet : DataPacket}
  {missed : List PacketId} {piece : Option Bytes}

theorem follows_new (size : Word) (interval : Nat) :
    (new size.val interval).Follows { size := size.val } where
  valid := .empty size.isLt
  window_eq := rfl

theorem Follows.reset (follows : reception.Follows journal) :
    reception.reset.Follows { size := journal.size } where
  valid := .empty follows.valid.size_lt_word
  window_eq := by
    rw [Reception.reset, follows.window_eq]
    rfl

theorem Follows.size_eq (follows : reception.Follows journal) :
    reception.window.size = journal.size := by
  rw [follows.window_eq, Journal.window]

theorem Follows.session_eq_none_iff (follows : reception.Follows journal) :
    reception.window.session = none ↔ journal.session = none := by
  rw [follows.window_eq, Journal.window, Option.map_eq_none_iff]

theorem Follows.isMissing_iff (follows : reception.Follows journal) {id : PacketId} :
    reception.window.isMissing id ↔
      ∃ session, journal.session = some session ∧ session.isMissing id := by
  rw [follows.window_eq, follows.valid.window_isMissing, Option.any_eq_true]

/-- A packet that is stored is rejected, and then nothing changes, or it is accepted by the journal,
and then the packets that it reveals are scheduled. -/
theorem Follows.store_cases (follows : reception.Follows journal)
    (stored : reception.store now packet = .ok (received, missed)) :
    (received = reception ∧ missed = []) ∨
      ∃ written, journal.write packet.id packet.payload = .ok (written, missed) ∧
        received.Follows written ∧
        received =
          { reception with window := written.window, gaps := reception.gaps.add missed now } := by
  rw [store, follows.window_eq, Overflow.bind_eq_ok_iff] at stored
  obtain ⟨answer, window_write, stored⟩ := stored
  have fits := follows.valid.fits_of_write window_write
  rw [follows.valid.window_write fits] at window_write
  cases written_eq : journal.write packet.id packet.payload with
  | error rejection =>
      rw [written_eq] at window_write
      cases window_write
      cases stored
      exact .inl ⟨rfl, rfl⟩
  | ok result =>
      obtain ⟨written, revealed⟩ := result
      rw [written_eq] at window_write
      cases window_write
      cases stored
      exact .inr ⟨written, rfl, ⟨follows.valid.write written_eq, rfl⟩, rfl⟩

/-- Playing reads the window.  Neither the station nor the session changes, and the flag is not
lowered. -/
theorem exists_read_of_play (played : reception.play = .ok (received, piece)) :
    ∃ window reading, reception.window.read = .ok (window, reading) ∧ received.window = window ∧
      received.gaps = reception.gaps ∧ reception.tuning.Persists received.tuning ∧
      ∀ payload ∈ piece, reading = .chunk payload := by
  obtain ⟨⟨window, reading⟩, window_read, played⟩ := Overflow.bind_eq_ok_iff.mp played
  refine ⟨window, reading, window_read, ?_⟩
  cases reading with
  | nothing =>
      cases played
      exact ⟨rfl, rfl, .refl _, by rintro _ ⟨⟩⟩
  | chunk payload =>
      cases played
      exact ⟨rfl, rfl, .refl _, by rintro _ ⟨⟩; rfl⟩
  | hole id =>
      cases played
      exact ⟨rfl, rfl, reception.tuning.persists_demandRestart, by rintro _ ⟨⟩⟩

/-- Playing takes the packet at the cursor of the journal. -/
theorem Follows.play_cases (follows : reception.Follows journal)
    (played : reception.play = .ok (received, piece)) :
    received.Follows journal.read.1 ∧ received.gaps = reception.gaps ∧
      ∀ payload ∈ piece, journal.read.2 = .chunk payload := by
  obtain ⟨window, reading, window_read, received_eq, gaps_eq, -, found⟩ :=
    exists_read_of_play played
  rw [follows.window_eq] at window_read
  rw [follows.valid.window_read (follows.valid.fits_of_read window_read)] at window_read
  cases window_read
  exact ⟨⟨follows.valid.read, received_eq⟩, gaps_eq, found⟩

/-- Storing a packet has no bearing on the station, the session and the flag. -/
theorem tuning_of_store (stored : reception.store now packet = .ok (received, missed)) :
    received.tuning = reception.tuning := by
  obtain ⟨answer, -, stored⟩ := Overflow.bind_eq_ok_iff.mp stored
  cases answer with
  | error rejection =>
      cases stored
      rfl
  | ok written =>
      cases stored
      rfl

/-- A packet that is received is ignored, or it is stored. -/
theorem receive_cases (done : reception.receive now packet = .ok (received, missed)) :
    (received = (reception.screen packet.session).1 ∧ missed = []) ∨
      (reception.screen packet.session).1.store now packet = .ok (received, missed) := by
  rw [receive] at done
  split at done
  · next screened screen_eq =>
    cases done
    exact .inl ⟨by rw [screen_eq], rfl⟩
  · next screened screen_eq =>
    rw [screen_eq]
    exact .inr done

end Reception
end Playback
end AudioMulticast
