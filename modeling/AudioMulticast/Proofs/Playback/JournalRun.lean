import AudioMulticast.Proofs.Playback.JournalWindow
import Mathlib.Tactic.SplitIfs

/-!
# Runs of a window and of its journal

A window and its journal are asked the same questions and give the same answers, call after call.
The window stops where a number leaves the range of a word, which is exactly where a call does not
fit.
-/

namespace AudioMulticast
namespace Playback
namespace Journal

/-- The window that has accepted the same packets and played as many. -/
def window (journal : Journal) : Window :=
  { size := journal.size, session := journal.session.map SessionJournal.window }

/-- What holds of every journal that is kept of a window. -/
structure Valid (journal : Journal) : Prop where
  size_lt_word : journal.size < Word.count
  session_valid : ∀ session, journal.session = some session → session.Valid journal.size

/-- Whether the window can carry out a call without an overflow. -/
def Fits (journal : Journal) : WindowCall → Prop
  | .write id payload =>
      journal.session = none → journal.rejection? id payload = none →
        3 * max 1 (journal.size / payload.length) < Word.count
  | .read =>
      ∀ session payload, journal.session = some session → session.read.2 = .chunk payload →
        session.next + session.length < Word.count
  | _ => True

variable {journal : Journal}

theorem Valid.window_rejection? (valid : journal.Valid) (id : PacketId) (payload : Bytes) :
    journal.window.rejection? id payload = journal.rejection? id payload := by
  obtain ⟨size, session⟩ := journal
  cases session with
  | none =>
      simp only [Window.rejection?, rejection?, window, Option.map_none]
      split
      · rfl
      · next payload_ne =>
        simp only [PacketId.isAligned_iff (List.length_pos_iff.mpr payload_ne)]
  | some session =>
      have length_pos := (valid.session_valid session rfl).length_pos
      simp only [Window.rejection?, rejection?, window, Option.map_some,
        SessionJournal.window_payloadLength, PacketId.isAligned_iff length_pos]

/-- A packet of an open session has the length of the session, and is aligned. -/
theorem accepted_iff_of_some {id : PacketId} {payload : Bytes} {session : SessionJournal}
    (found : journal.session = some session) :
    journal.rejection? id payload = none ↔
      payload.length = session.length ∧ session.length ∣ id.val := by
  simp only [rejection?, found]
  split_ifs with length_ne aligned
  · exact iff_of_false (by rintro ⟨⟩) fun fits => length_ne fits.1
  · exact iff_of_true rfl ⟨not_not.mp length_ne, aligned⟩
  · exact iff_of_false (by rintro ⟨⟩) fun fits => aligned fits.2

/-- A first packet has a payload, and is aligned. -/
theorem accepted_iff_of_none {id : PacketId} {payload : Bytes} (found : journal.session = none) :
    journal.rejection? id payload = none ↔ payload ≠ [] ∧ payload.length ∣ id.val := by
  simp only [rejection?, found]
  split_ifs with payload_eq aligned
  · exact iff_of_false (by rintro ⟨⟩) fun fits => fits.1 payload_eq
  · exact iff_of_true rfl ⟨payload_eq, aligned⟩
  · exact iff_of_false (by rintro ⟨⟩) fun fits => aligned fits.2

/-- A call other than a reset accepts a packet, takes a piece of audio, or changes nothing. -/
theorem perform_cases (journal : Journal) {call : WindowCall} (kept : call ≠ .reset) :
    (∃ id payload, call = .write id payload ∧ journal.rejection? id payload = none ∧
        journal.perform call =
          ({ journal with session := some (journal.accept id payload).1 },
            .stored (journal.accept id payload).2)) ∨
      (∃ session payload, call = .read ∧ journal.session = some session ∧
        session.payloads session.next = some payload ∧ session.next ≤ session.top ∧
        journal.perform call =
          ({ journal with session := some session.advance }, .found (.chunk payload))) ∨
      ((journal.perform call).1 = journal ∧
        ∀ payload, (journal.perform call).2 ≠ .found (.chunk payload)) := by
  obtain ⟨size, session⟩ := journal
  cases call with
  | write id payload =>
      cases accepted : ({ size, session } : Journal).rejection? id payload with
      | some rejection =>
          refine .inr (.inr ?_)
          simp only [perform, write, accepted]
          exact ⟨trivial, by rintro _ ⟨⟩⟩
      | none =>
          refine .inl ⟨id, payload, rfl, accepted, ?_⟩
          simp only [perform, write, accepted]
  | read =>
      cases session with
      | none => exact .inr (.inr ⟨rfl, by rintro _ ⟨⟩⟩)
      | some session =>
          rcases session.read_cases with
            ⟨-, read_eq⟩ | ⟨-, -, read_eq⟩ | ⟨⟨-, next_le⟩, payload, payload_eq, read_eq⟩
          · refine .inr (.inr ?_)
            simp only [perform, read, read_eq]
            exact ⟨trivial, by rintro _ ⟨⟩⟩
          · refine .inr (.inr ?_)
            simp only [perform, read, read_eq]
            exact ⟨trivial, by rintro _ ⟨⟩⟩
          · refine .inr (.inl ⟨session, payload, rfl, rfl, payload_eq, next_le, ?_⟩)
            simp only [perform, read, read_eq]
  | covers id => exact .inr (.inr ⟨rfl, by rintro _ ⟨⟩⟩)
  | isMissing id => exact .inr (.inr ⟨rfl, by rintro _ ⟨⟩⟩)
  | reset => exact absurd rfl kept

/-- Storing a packet that is not rejected is accepting it. -/
theorem Valid.window_store (valid : journal.Valid) {id : PacketId} {payload : Bytes}
    (accepted : journal.rejection? id payload = none) (fits : journal.Fits (.write id payload)) :
    journal.window.store id payload =
      .ok ({ size := journal.size, session := some (journal.accept id payload).1.window },
        (journal.accept id payload).2) := by
  cases found : journal.session with
  | none =>
      obtain ⟨payload_ne, aligned⟩ := (accepted_iff_of_none found).mp accepted
      obtain ⟨session, started, readable⟩ : ∃ session,
          WindowSession.start journal.size id payload = .ok session ∧
            session.startAt id = (SessionJournal.start journal.size id payload).window :=
        SessionJournal.exists_start payload_ne valid.size_lt_word (fits found accepted)
      simp only [Window.store, window, accept, found, Option.map_none, started, Except.map,
        Overflow.ok_bind, readable]
      rfl
  | some session =>
      obtain ⟨-, aligned⟩ := (accepted_iff_of_some found).mp accepted
      have session_valid := valid.session_valid session found
      simp only [Window.store, window, accept, found, Option.map_some,
        session_valid.place valid.size_lt_word payload aligned, Overflow.ok_bind,
        SessionJournal.startAt_accept]
      rfl

theorem Valid.window_write (valid : journal.Valid) {id : PacketId} {payload : Bytes}
    (fits : journal.Fits (.write id payload)) :
    journal.window.write id payload =
      .ok ((journal.write id payload).map fun written => (written.1.window, written.2)) := by
  rw [Window.write, valid.window_rejection?, write]
  cases accepted : journal.rejection? id payload with
  | some rejection => rfl
  | none =>
      simp only [valid.window_store accepted fits]
      rfl

/-- A write that does not fit stops the window. -/
theorem Valid.fits_of_write (valid : journal.Valid) {id : PacketId} {payload : Bytes}
    {written : Except Rejection (Window × List PacketId)}
    (finished : journal.window.write id payload = .ok written) :
    journal.Fits (.write id payload) := by
  intro found accepted
  by_contra tripled_ge
  rw [Window.write, valid.window_rejection?, accepted] at finished
  simp only [Window.store, window, found, Option.map_none,
    SessionJournal.start_eq_error (Nat.le_of_not_lt tripled_ge)] at finished
  cases finished

theorem Valid.window_read (valid : journal.Valid) (fits : journal.Fits .read) :
    journal.window.read = .ok (journal.read.1.window, journal.read.2) := by
  cases found : journal.session with
  | none => simp only [Window.read, window, read, found, Option.map_none]
  | some session =>
      have session_valid := valid.session_valid session found
      simp only [Window.read, window, read, found, Option.map_some, SessionJournal.window_started]
      rcases session.read_cases with
        ⟨stopped, read_eq⟩ | ⟨⟨readable, next_le⟩, payload_eq, read_eq⟩ |
          ⟨⟨readable, next_le⟩, payload, payload_eq, read_eq⟩
      · by_cases readable : session.isReadable
        · have caughtUp : session.top < session.next := by
            rw [not_and] at stopped
            exact Nat.lt_of_not_le (stopped readable)
          rw [if_pos readable, session_valid.slots_eq_nil caughtUp, read_eq]
        · rw [if_neg readable, read_eq]
      · rw [if_pos readable, session_valid.slots_eq_cons next_le, payload_eq, read_eq]
        rfl
      · have next_lt := fits session payload found (by rw [read_eq])
        rw [if_pos readable, session_valid.slots_eq_cons next_le, payload_eq, read_eq]
        simp only [SessionJournal.window_front, SessionJournal.window_payloadLength,
          Word.add_of_lt next_lt, Overflow.ok_bind]
        rfl

/-- A read that does not fit stops the window. -/
theorem Valid.fits_of_read (valid : journal.Valid) {played : Window × Reading}
    (finished : journal.window.read = .ok played) : journal.Fits .read := by
  intro session payload found chunk
  by_contra next_ge
  have session_valid := valid.session_valid session found
  rcases session.read_cases with
    ⟨-, read_eq⟩ | ⟨-, -, read_eq⟩ | ⟨⟨readable, next_le⟩, _, payload_eq, -⟩
  · rw [read_eq] at chunk
    cases chunk
  · rw [read_eq] at chunk
    cases chunk
  · simp only [Window.read, window, found, Option.map_some,
      SessionJournal.window_started] at finished
    rw [if_pos readable, session_valid.slots_eq_cons next_le, payload_eq] at finished
    simp only [SessionJournal.window_front, SessionJournal.window_payloadLength,
      Word.add_of_le (Nat.le_of_not_lt next_ge), Overflow.error_bind] at finished
    cases finished

theorem Valid.window_covers (valid : journal.Valid) (id : PacketId) :
    journal.window.covers id = journal.session.any (·.covers id) := by
  cases found : journal.session with
  | none => simp only [Window.covers, window, found, Option.map_none, Option.any_none]
  | some session =>
      simp only [Window.covers, window, found, Option.map_some, Option.any_some,
        (valid.session_valid session found).window_covers]

theorem Valid.window_isMissing (valid : journal.Valid) (id : PacketId) :
    journal.window.isMissing id = journal.session.any (·.isMissing id) := by
  cases found : journal.session with
  | none => simp only [Window.isMissing, window, found, Option.map_none, Option.any_none]
  | some session =>
      simp only [Window.isMissing, window, found, Option.map_some, Option.any_some,
        (valid.session_valid session found).window_isMissing]

theorem window_phase (journal : Journal) : journal.window.phase = journal.phase := by
  cases found : journal.session with
  | none => simp only [Window.phase, phase, window, found, Option.map_none]
  | some session =>
      simp only [Window.phase, phase, window, found, Option.map_some, SessionJournal.window_started]
      rfl

/-- A call has the same effect and the same answer, unless it overflows. -/
theorem Valid.window_perform (valid : journal.Valid) {call : WindowCall}
    (fits : journal.Fits call) :
    journal.window.perform call =
      .ok ((journal.perform call).1.window, (journal.perform call).2) := by
  cases call with
  | write id payload =>
      simp only [Window.perform, perform, valid.window_write fits, Overflow.ok_bind]
      cases journal.write id payload with
      | error rejection => rfl
      | ok written => rfl
  | read =>
      simp only [Window.perform, perform, valid.window_read fits, Overflow.ok_bind]
      rfl
  | covers id => simp only [Window.perform, perform, valid.window_covers]
  | isMissing id => simp only [Window.perform, perform, valid.window_isMissing]
  | reset => rfl

/-! ## Validity along a run -/

theorem perform_size (journal : Journal) (call : WindowCall) :
    (journal.perform call).1.size = journal.size := by
  by_cases kept : call = .reset
  · rw [kept]
    rfl
  · rcases journal.perform_cases kept with
      ⟨_, _, -, -, performed_eq⟩ | ⟨_, _, -, -, -, -, performed_eq⟩ | ⟨same, -⟩
    · rw [performed_eq]
    · rw [performed_eq]
    · rw [same]

theorem Valid.empty {size : Nat} (size_lt : size < Word.count) : ({ size } : Journal).Valid where
  size_lt_word := size_lt
  session_valid := by rintro _ ⟨⟩

theorem Valid.accept (valid : journal.Valid) {id : PacketId} {payload : Bytes}
    (accepted : journal.rejection? id payload = none) :
    (journal.accept id payload).1.Valid journal.size := by
  cases found : journal.session with
  | none =>
      obtain ⟨payload_ne, aligned⟩ := (accepted_iff_of_none found).mp accepted
      simp only [Journal.accept, found]
      exact .start payload_ne aligned
  | some session =>
      obtain ⟨-, aligned⟩ := (accepted_iff_of_some found).mp accepted
      simp only [Journal.accept, found]
      exact (valid.session_valid session found).accept payload aligned

/-- What is remembered once a packet has been accepted was remembered before, or is its payload. -/
theorem payloads_of_accept {id : PacketId} {payload remembered : Bytes} {other : Nat}
    (found : (journal.accept id payload).1.payloads other = some remembered) :
    (other = id.val ∧ remembered = payload) ∨
      ∃ session, journal.session = some session ∧ session.payloads other = some remembered := by
  by_cases same : other = id.val
  · left
    subst same
    refine ⟨rfl, ?_⟩
    cases session_eq : journal.session with
    | none =>
        simp only [Journal.accept, session_eq, SessionJournal.start, Function.update_self] at found
        exact (Option.some_inj.mp found).symm
    | some session =>
        simp only [Journal.accept, session_eq, SessionJournal.accept, Function.update_self] at found
        exact (Option.some_inj.mp found).symm
  · right
    cases session_eq : journal.session with
    | none =>
        simp only [Journal.accept, session_eq, SessionJournal.start,
          Function.update_of_ne same] at found
        cases found
    | some session =>
        simp only [Journal.accept, session_eq, SessionJournal.accept,
          Function.update_of_ne same] at found
        exact ⟨session, rfl, found⟩

/-- A packet that is written is accepted. -/
theorem write_eq_ok {id : PacketId} {payload : Bytes} {written : Journal} {missed : List PacketId}
    (write_eq : journal.write id payload = .ok (written, missed)) :
    journal.rejection? id payload = none ∧
      written = { journal with session := some (journal.accept id payload).1 } ∧
      missed = (journal.accept id payload).2 := by
  rw [Journal.write] at write_eq
  split at write_eq
  · cases write_eq
  · next accepted =>
    cases write_eq
    exact ⟨accepted, rfl, rfl⟩

theorem Valid.write (valid : journal.Valid) {id : PacketId} {payload : Bytes} {written : Journal}
    {missed : List PacketId} (write_eq : journal.write id payload = .ok (written, missed)) :
    written.Valid := by
  obtain ⟨accepted, rfl, -⟩ := write_eq_ok write_eq
  refine ⟨valid.size_lt_word, ?_⟩
  rintro _ ⟨⟩
  exact valid.accept accepted

theorem Valid.read (valid : journal.Valid) : journal.read.1.Valid := by
  rw [Journal.read]
  split
  · exact valid
  · next session found =>
    refine ⟨valid.size_lt_word, ?_⟩
    rintro _ ⟨⟩
    exact (valid.session_valid session found).read

theorem Valid.perform (valid : journal.Valid) (call : WindowCall) :
    (journal.perform call).1.Valid := by
  cases call with
  | write id payload =>
      simp only [Journal.perform]
      split
      · exact valid
      · next written_eq => exact valid.write written_eq
  | read => exact valid.read
  | covers id => exact valid
  | isMissing id => exact valid
  | reset => exact .empty valid.size_lt_word

theorem trace_cons (journal : Journal) (call : WindowCall) (calls : List WindowCall) :
    journal.trace (call :: calls) =
      { before := journal
        call
        answer := (journal.perform call).2
        after := (journal.perform call).1 } :: (journal.perform call).1.trace calls :=
  rfl

/-- The record of a window is that of its journal, if every call fits when it is made. -/
theorem Valid.window_trace {journal : Journal} {calls : List WindowCall} (valid : journal.Valid)
    (fits : ∀ moment ∈ journal.trace calls, moment.before.Fits moment.call) :
    journal.window.trace calls = .ok ((journal.trace calls).map (·.map window)) := by
  induction calls generalizing journal with
  | nil => rfl
  | cons call calls ih =>
      have call_fits : journal.Fits call := fits _ (List.mem_cons_self ..)
      have rest := ih (valid.perform call) fun moment member =>
        fits moment (List.mem_cons_of_mem _ member)
      simp only [Window.trace, trace, valid.window_perform call_fits, Overflow.ok_bind, rest]
      rfl

/-! ## Calls that fit -/

/-- What is asked of a call: an accepted packet ends in the range of a word, and the session that it
opens, if it opens one, is not too long for a window. -/
def Admits (journal : Journal) : WindowCall → Prop
  | .write id payload =>
      journal.rejection? id payload = none →
        id.val + payload.length < Word.count ∧
          (journal.session = none → 3 * max 1 (journal.size / payload.length) < Word.count)
  | _ => True

/-- The packet after the highest one is in the range of a word. -/
def InRange (journal : Journal) : Prop :=
  ∀ session, journal.session = some session → session.top + session.length < Word.count

theorem fits_of_admits {call : WindowCall} (inRange : journal.InRange)
    (admits : journal.Admits call) : journal.Fits call := by
  cases call with
  | write id payload => exact fun found accepted => (admits accepted).2 found
  | read =>
      intro session payload found chunk
      have session_lt := inRange session found
      rcases session.read_cases with ⟨-, read_eq⟩ | ⟨-, -, read_eq⟩ | ⟨⟨-, next_le⟩, _⟩
      · rw [read_eq] at chunk
        cases chunk
      · rw [read_eq] at chunk
        cases chunk
      · omega
  | covers id => trivial
  | isMissing id => trivial
  | reset => trivial

theorem inRange_perform {call : WindowCall} (inRange : journal.InRange)
    (admits : journal.Admits call) : (journal.perform call).1.InRange := by
  cases call with
  | write id payload =>
      simp only [perform, write]
      cases accepted : journal.rejection? id payload with
      | some rejection => exact inRange
      | none =>
          have fits := (admits accepted).1
          rintro _ ⟨⟩
          cases found : journal.session with
          | none =>
              simp only [accept, found]
              exact fits
          | some session =>
              obtain ⟨length_eq, -⟩ := (accepted_iff_of_some found).mp accepted
              have session_fits := inRange session found
              simp only [accept, found, SessionJournal.accept]
              omega
  | read =>
      simp only [perform, read]
      cases found : journal.session with
      | none => exact inRange
      | some session =>
          rintro _ ⟨⟩
          rw [SessionJournal.read_top, SessionJournal.read_length]
          exact inRange session found
  | covers id => exact inRange
  | isMissing id => exact inRange
  | reset => rintro _ ⟨⟩

theorem fits_of_mem_trace {journal : Journal} {calls : List WindowCall} (inRange : journal.InRange)
    (admits : ∀ moment ∈ journal.trace calls, moment.before.Admits moment.call) :
    ∀ moment ∈ journal.trace calls, moment.before.Fits moment.call := by
  induction calls generalizing journal with
  | nil => rintro _ ⟨⟩
  | cons call calls ih =>
      have call_admits : journal.Admits call := admits _ (List.mem_cons_self ..)
      intro moment member
      rw [trace_cons] at member
      rcases List.mem_cons.mp member with rfl | member
      · exact fits_of_admits inRange call_admits
      · exact ih (inRange_perform inRange call_admits)
          (fun moment member => admits moment (List.mem_cons_of_mem _ member)) moment member

end Journal

/-- A window of any size answers any calls as its journal does, without an overflow, as long as the
accepted packets end in the range of a word and no session is too long for a window. -/
theorem Window.run_eq_journal_run (size : Word) (calls : List WindowCall)
    (admits : ∀ moment ∈ ({ size := size.val } : Journal).trace calls,
      moment.before.Admits moment.call) :
    Window.run { size := size.val } calls = .ok (Journal.run { size := size.val } calls) := by
  have inRange : ({ size := size.val } : Journal).InRange := by rintro _ ⟨⟩
  have traced : Window.trace { size := size.val } calls =
      .ok ((({ size := size.val } : Journal).trace calls).map (·.map Journal.window)) :=
    (Journal.Valid.empty size.isLt).window_trace (Journal.fits_of_mem_trace inRange admits)
  have shown (moment : Moment Journal) :
      ((moment.map Journal.window).answer, (moment.map Journal.window).after.phase) =
        (moment.answer, moment.after.phase) :=
    congrArg (Prod.mk moment.answer) moment.after.window_phase
  rw [Window.run, traced, Except.map, List.map_map, Journal.run]
  exact congrArg Except.ok (List.map_congr_left fun moment _ => shown moment)

instance (journal : Journal) (call : WindowCall) : Decidable (journal.Admits call) :=
  match call with
  | .write _ _ => inferInstanceAs (Decidable (_ → _))
  | .read | .covers _ | .isMissing _ | .reset => inferInstanceAs (Decidable True)

/-- A gap is revealed, filled and played over, and a jump drops a packet that was not played. -/
theorem Window.run_gap_and_jump :
    Window.run { size := 6 }
        [.write 4 [1, 2], .write 8 [5, 6], .isMissing 6, .read, .read, .write 6 [3, 4],
          .write 5 [0, 0], .write 14 [9, 9], .covers 8, .read, .reset] =
      .ok
        [(.stored [], .waiting), (.stored [6], .readable), (.truth true, .readable),
          (.found (.chunk [1, 2]), .readable), (.found (.hole 6), .readable),
          (.stored [], .readable), (.rejected (.misaligned 5 2), .readable),
          (.stored [10, 12], .readable), (.truth false, .readable), (.found (.hole 10), .readable),
          (.done, .noSession)] :=
  Window.run_eq_journal_run 6 _ (by decide)

end Playback
end AudioMulticast
