import AudioMulticast.Proofs.Playback.JournalRun

/-!
# What is played of a stream

A window that is given packets of one stream, in any order, with losses and repetitions, plays
pieces of that stream in ascending order.  Something is left out between two pieces only if a packet
arrived in the meantime that was too far ahead of the front.
-/

namespace AudioMulticast
namespace Playback

/-- The bytes of a stream from an offset on. -/
def piece (stream : Nat → UInt8) (offset count : Nat) : Bytes :=
  (List.range' offset count).map stream

theorem length_piece (stream : Nat → UInt8) (offset count : Nat) :
    (piece stream offset count).length = count := by
  rw [piece, List.length_map, List.length_range']

theorem piece_append (stream : Nat → UInt8) (offset left right : Nat) :
    piece stream offset left ++ piece stream (offset + left) right =
      piece stream offset (left + right) := by
  rw [piece, piece, ← List.map_append, List.range'_append_1, piece]

/-- The packet that a call writes. -/
def WindowCall.written? : WindowCall → Option PacketId
  | .write id _ => some id
  | _ => none

/-- Whether a call writes a packet of a stream that is cut into packets of `length` bytes, or
neither writes nor forgets packets. -/
def WindowCall.Carries (stream : Nat → UInt8) (length : Nat) : WindowCall → Prop
  | .write id payload =>
      length ∣ id.val ∧ id.val + length < Word.count ∧ payload = piece stream id.val length
  | .reset => False
  | _ => True

/-- Id of the packet at the front of a window. -/
def Window.front? (window : Window) : Option Nat :=
  window.session.map (·.front)

/-- The piece of audio that a call has taken off the front, with its id. -/
def Moment.chunk? (moment : Moment Window) : Option (Nat × Bytes) :=
  match moment.answer with
  | .found (.chunk payload) => moment.before.front?.map (·, payload)
  | _ => none

/-- Whether a call writes no packet that is more than `reach` bytes ahead of the front. -/
def Moment.StaysWithin (reach : Nat) (moment : Moment Window) : Prop :=
  ∀ front packet, moment.before.front? = some front → moment.call.written? = some packet →
    packet.val ≤ front + reach

/-- A recorded run plays an extract of a stream that is cut into packets of `length` bytes. -/
structure PlaysExtract (stream : Nat → UInt8) (length capacity : Nat)
    (moments : List (Moment Window)) : Prop where
  /-- A piece that is played is that of a packet which was written before. -/
  faithful :
    ∀ {earlier moment later id payload}, moments = earlier ++ moment :: later →
      moment.chunk? = some (id, payload) →
        payload = piece stream id length ∧
          ∃ write ∈ earlier, write.call.written?.map Fin.val = some id
  /-- The ids of the pieces ascend. -/
  ascending : (moments.filterMap Moment.chunk?).Pairwise fun first second => first.1 < second.1
  /-- Nothing is left out between two pieces, unless a packet that was written in the meantime is
  too far ahead of where the first piece left the front. -/
  adjacent :
    ∀ {earlier first between second later id payload nextId nextPayload},
      moments = earlier ++ first :: (between ++ second :: later) →
      first.chunk? = some (id, payload) →
      (∀ moment ∈ between, moment.chunk? = none) →
      second.chunk? = some (nextId, nextPayload) →
        nextId = id + length ∨
          ∃ front, first.after.front? = some front ∧
            ∃ moment ∈ between, ∃ packet, moment.call.written? = some packet ∧
              front + (capacity - 1) * length < packet.val
  /-- Where no packet is too far ahead of the front at its time, the pieces are the stream from the
  first packet on. -/
  contiguous :
    (∀ moment ∈ moments, moment.StaysWithin ((capacity - 1) * length)) →
    ∀ first, moments.findSome? (·.call.written?) = some first →
      ∃ count, ((moments.filterMap Moment.chunk?).map Prod.snd).flatten =
        piece stream first.val (count * length)

namespace Journal

variable {stream : Nat → UInt8} {length : Nat} {written : Nat → Prop} {journal : Journal}

/-- What a window that has the journal records of a call. -/
def moment (journal : Journal) (call : WindowCall) : Moment Window :=
  { before := journal.window
    call
    answer := (journal.perform call).2
    after := (journal.perform call).1.window }

/-- What a window that has the journal records of a run. -/
def film (journal : Journal) (calls : List WindowCall) : List (Moment Window) :=
  (journal.trace calls).map (·.map window)

theorem film_cons (journal : Journal) (call : WindowCall) (calls : List WindowCall) :
    journal.film (call :: calls) =
      journal.moment call :: (journal.perform call).1.film calls :=
  rfl

theorem window_front? (journal : Journal) :
    journal.window.front? = journal.session.map (·.next) := by
  rw [Window.front?, window, Option.map_map]
  rfl

/-- The journal after some calls. -/
def after (journal : Journal) (calls : List WindowCall) : Journal :=
  calls.foldl (fun journal call => (journal.perform call).1) journal

/-- Where a record is cut, so are the calls, and each part is the record of its calls. -/
theorem exists_of_film_eq {calls : List WindowCall} {earlier later : List (Moment Window)}
    {current : Moment Window} (cut : journal.film calls = earlier ++ current :: later) :
    ∃ past call future, calls = past ++ call :: future ∧ earlier = journal.film past ∧
      current = (journal.after past).moment call ∧
      later = ((journal.after past).perform call).1.film future := by
  induction earlier generalizing journal calls with
  | nil =>
      cases calls with
      | nil => cases cut
      | cons call future =>
          rw [film_cons, List.nil_append, List.cons_eq_cons] at cut
          exact ⟨[], call, future, rfl, rfl, cut.1.symm, cut.2.symm⟩
  | cons first earlier ih =>
      cases calls with
      | nil => cases cut
      | cons start calls =>
          rw [film_cons, List.cons_append, List.cons_eq_cons] at cut
          obtain ⟨past, call, future, calls_eq, earlier_eq, rest⟩ := ih cut.2
          refine ⟨start :: past, call, future, ?_, ?_, rest⟩
          · rw [calls_eq, List.cons_append]
          · rw [film_cons, earlier_eq, cut.1]

/-! ## One call -/

theorem chunk?_moment_of_silent {call : WindowCall}
    (silent : ∀ payload, (journal.perform call).2 ≠ .found (.chunk payload)) :
    (journal.moment call).chunk? = none := by
  rw [Moment.chunk?]
  split
  · next payload answer_eq => exact absurd answer_eq (silent payload)
  · rfl

theorem chunk?_moment_of_none (empty : journal.session = none) (call : WindowCall) :
    (journal.moment call).chunk? = none := by
  rw [Moment.chunk?]
  split
  · rw [moment, window_front?, empty, Option.map_none, Option.map_none]
  · rfl

/-- A call that takes a piece moves the front by a step, and any other one moves it only where it
writes a packet too far ahead. -/
theorem Valid.exists_session_perform (valid : journal.Valid) {session : SessionJournal}
    {call : WindowCall} (found : journal.session = some session) (kept : call ≠ .reset) :
    ∃ performed, (journal.perform call).1.session = some performed ∧
      performed.length = session.length ∧ performed.capacity = session.capacity ∧
      ((∃ payload, session.payloads session.next = some payload ∧
          (journal.moment call).chunk? = some (session.next, payload) ∧
          performed.next = session.next + session.length) ∨
        ((journal.moment call).chunk? = none ∧
          (performed.next = session.next ∨
            session.next < performed.next ∧ ∃ packet, call.written? = some packet ∧
              session.next + (session.capacity - 1) * session.length < packet.val))) := by
  have session_valid := valid.session_valid session found
  rcases journal.perform_cases kept with
    ⟨id, payload, rfl, -, performed_eq⟩ |
      ⟨other, payload, rfl, found', payload_eq, -, performed_eq⟩ | ⟨same, silent⟩
  · refine ⟨session.accept id payload, ?_, rfl, rfl, .inr ⟨?_, ?_⟩⟩
    · simp only [performed_eq, Journal.accept, found]
    · refine chunk?_moment_of_silent fun _ => ?_
      rw [performed_eq]
      rintro ⟨⟩
    · have top_le := session_valid.top_le
      by_cases far : session.next + (session.capacity - 1) * session.length < id.val
      · refine .inr ⟨?_, id, rfl, far⟩
        simp only [SessionJournal.accept]
        omega
      · refine .inl ?_
        simp only [SessionJournal.accept]
        omega
  · obtain rfl : session = other := Option.some_inj.mp (found.symm.trans found')
    refine ⟨session.advance, ?_, rfl, rfl, .inl ⟨payload, payload_eq, ?_, rfl⟩⟩
    · rw [performed_eq]
    · simp only [Moment.chunk?, moment, performed_eq, window_front?, found, Option.map_some]
  · refine ⟨session, ?_, rfl, rfl, .inr ⟨chunk?_moment_of_silent silent, .inl rfl⟩⟩
    rw [same, found]

theorem perform_of_none {call : WindowCall} (empty : journal.session = none)
    (unwritten : call.written? = none) : (journal.perform call).1.session = none := by
  cases call with
  | write id payload => cases unwritten
  | read => simp only [perform, read, empty]
  | covers id => exact empty
  | isMissing id => exact empty
  | reset => rfl

/-! ## The order of the pieces -/

/-- The pieces ascend from the front on. -/
theorem Valid.ascending_film {journal : Journal} {calls : List WindowCall} (valid : journal.Valid)
    (kept : ∀ call ∈ calls, call ≠ .reset) :
    ((journal.film calls).filterMap Moment.chunk?).Pairwise
        (fun first second => first.1 < second.1) ∧
      ∀ session, journal.session = some session →
        ∀ chunk ∈ (journal.film calls).filterMap Moment.chunk?, session.next ≤ chunk.1 := by
  induction calls generalizing journal with
  | nil => exact ⟨.nil, by rintro _ _ _ ⟨⟩⟩
  | cons call calls ih =>
      obtain ⟨ascending, ahead⟩ := ih (valid.perform call) fun other member =>
        kept other (List.mem_cons_of_mem _ member)
      rw [film_cons]
      cases found : journal.session with
      | none =>
          rw [List.filterMap_cons_none (chunk?_moment_of_none found call)]
          exact ⟨ascending, by rintro _ ⟨⟩⟩
      | some session =>
          obtain ⟨performed, performed_eq, -, -, step⟩ :=
            valid.exists_session_perform found (kept call (List.mem_cons_self ..))
          have length_pos := (valid.session_valid session found).length_pos
          have performed_ahead := ahead performed performed_eq
          rcases step with ⟨payload, -, chunk_eq, next_eq⟩ | ⟨chunk_eq, moved⟩
          · rw [List.filterMap_cons_some chunk_eq]
            constructor
            · refine List.pairwise_cons.mpr ⟨fun chunk member => ?_, ascending⟩
              have := performed_ahead chunk member
              simp only
              omega
            · rintro _ ⟨⟩ chunk member
              rcases List.mem_cons.mp member with rfl | member
              · exact Nat.le_refl _
              · have := performed_ahead chunk member
                omega
          · rw [List.filterMap_cons_none chunk_eq]
            refine ⟨ascending, ?_⟩
            rintro _ ⟨⟩ chunk member
            have := performed_ahead chunk member
            omega

/-- The next piece is the one at the front, unless a packet that is written before it is too far
ahead. -/
theorem Valid.next_chunk {journal : Journal} {calls : List WindowCall} (valid : journal.Valid)
    (kept : ∀ call ∈ calls, call ≠ .reset) {session : SessionJournal}
    (found : journal.session = some session) {between later : List (Moment Window)}
    {second : Moment Window} (cut : journal.film calls = between ++ second :: later)
    (silent : ∀ moment ∈ between, moment.chunk? = none) {id : Nat} {payload : Bytes}
    (chunk_eq : second.chunk? = some (id, payload)) :
    id = session.next ∨
      ∃ moment ∈ between, ∃ packet, moment.call.written? = some packet ∧
        session.next + (session.capacity - 1) * session.length < packet.val := by
  induction between generalizing journal calls session with
  | nil =>
      cases calls with
      | nil => cases cut
      | cons call calls =>
          rw [film_cons, List.nil_append, List.cons_eq_cons] at cut
          obtain ⟨_, -, -, -, step⟩ :=
            valid.exists_session_perform found (kept call (List.mem_cons_self ..))
          rw [← cut.1] at chunk_eq
          rcases step with ⟨_, -, front_eq, -⟩ | ⟨silent, -⟩
          · rw [front_eq] at chunk_eq
            cases chunk_eq
            exact .inl rfl
          · rw [silent] at chunk_eq
            cases chunk_eq
  | cons moment between ih =>
      cases calls with
      | nil => cases cut
      | cons call calls =>
          rw [film_cons, List.cons_append, List.cons_eq_cons] at cut
          obtain ⟨performed, performed_eq, length_eq, capacity_eq, step⟩ :=
            valid.exists_session_perform found (kept call (List.mem_cons_self ..))
          have moment_silent := silent moment (List.mem_cons_self ..)
          rw [← cut.1] at moment_silent
          rcases step with ⟨_, -, front_eq, -⟩ | ⟨-, stayed | ⟨-, packet, written, far⟩⟩
          · rw [front_eq] at moment_silent
            cases moment_silent
          · have next := ih (valid.perform call)
              (fun other member => kept other (List.mem_cons_of_mem _ member)) performed_eq cut.2
              (fun other member => silent other (List.mem_cons_of_mem _ member))
            rw [stayed, capacity_eq, length_eq] at next
            rcases next with id_eq | ⟨other, member, far⟩
            · exact .inl id_eq
            · exact .inr ⟨other, List.mem_cons_of_mem _ member, far⟩
          · refine .inr ⟨moment, List.mem_cons_self .., packet, ?_, far⟩
            rw [← cut.1]
            exact written

/-! ## The bytes of the pieces -/

/-- What holds of the journal after calls that carry a stream: whatever it remembers is a packet of
the stream, and was written. -/
structure Carries (stream : Nat → UInt8) (length : Nat) (written : Nat → Prop)
    (journal : Journal) : Prop where
  valid : journal.Valid
  inRange : journal.InRange
  length_eq : ∀ session, journal.session = some session → session.length = length
  payload_eq : ∀ session id payload, journal.session = some session →
    session.payloads id = some payload → payload = piece stream id length ∧ written id

theorem admits_of_carries {call : WindowCall} (carried : call.Carries stream length)
    (tripled_lt : 3 * max 1 (journal.size / length) < Word.count) : journal.Admits call := by
  cases call with
  | write id payload =>
      obtain ⟨-, id_lt, rfl⟩ := carried
      intro _
      rw [length_piece]
      exact ⟨id_lt, fun _ => tripled_lt⟩
  | read => trivial
  | covers id => trivial
  | isMissing id => trivial
  | reset => trivial

theorem ne_reset_of_carries {call : WindowCall} (carried : call.Carries stream length) :
    call ≠ .reset := by
  rintro rfl
  exact carried

theorem Carries.mono (carries : journal.Carries stream length written) {more : Nat → Prop}
    (enlarge : ∀ id, written id → more id) : journal.Carries stream length more where
  valid := carries.valid
  inRange := carries.inRange
  length_eq := carries.length_eq
  payload_eq := fun session id payload found payload_eq =>
    (carries.payload_eq session id payload found payload_eq).imp_right (enlarge id)

theorem Carries.accept (carries : journal.Carries stream length written) (id : PacketId) :
    (journal.accept id (piece stream id.val length)).1.length = length ∧
      ∀ other payload,
        (journal.accept id (piece stream id.val length)).1.payloads other = some payload →
          payload = piece stream other length ∧ (written other ∨ some id.val = some other) := by
  constructor
  · cases found : journal.session with
    | none =>
        simp only [Journal.accept, found, SessionJournal.start]
        exact length_piece ..
    | some session =>
        simp only [Journal.accept, found, SessionJournal.accept]
        exact carries.length_eq session found
  · intro other payload remembered
    rcases payloads_of_accept remembered with ⟨rfl, rfl⟩ | ⟨session, found, before⟩
    · exact ⟨rfl, .inr rfl⟩
    · exact (carries.payload_eq session other payload found before).imp_right .inl

theorem Carries.perform (carries : journal.Carries stream length written) {call : WindowCall}
    (carried : call.Carries stream length)
    (tripled_lt : 3 * max 1 (journal.size / length) < Word.count) :
    (journal.perform call).1.Carries stream length
      (fun id => written id ∨ call.written?.map Fin.val = some id) := by
  have valid := carries.valid.perform call
  have inRange := inRange_perform carries.inRange (admits_of_carries carried tripled_lt)
  rcases journal.perform_cases (ne_reset_of_carries carried) with
    ⟨id, payload, rfl, -, performed_eq⟩ | ⟨session, payload, rfl, found, -, -, performed_eq⟩ |
      ⟨same, -⟩
  · obtain ⟨-, -, rfl⟩ := carried
    obtain ⟨length_eq, payload_eq⟩ := carries.accept id
    refine ⟨valid, inRange, ?_, ?_⟩
    · rw [performed_eq]
      rintro _ ⟨⟩
      exact length_eq
    · rw [performed_eq]
      rintro _ other payload ⟨⟩
      exact payload_eq other payload
  · refine ⟨valid, inRange, ?_, ?_⟩
    · rw [performed_eq]
      rintro _ ⟨⟩
      exact carries.length_eq session found
    · rw [performed_eq]
      rintro _ other payload ⟨⟩ payload_eq
      exact (carries.payload_eq session other payload found payload_eq).imp_right .inl
  · rw [same]
    exact carries.mono fun _ => .inl

theorem Carries.after {journal : Journal} {calls : List WindowCall}
    (carries : journal.Carries stream length written)
    (carried : ∀ call ∈ calls, call.Carries stream length)
    (tripled_lt : 3 * max 1 (journal.size / length) < Word.count) :
    (journal.after calls).Carries stream length
      (fun id => written id ∨ ∃ call ∈ calls, call.written?.map Fin.val = some id) := by
  induction calls generalizing journal written with
  | nil => exact carries.mono fun _ => .inl
  | cons call calls ih =>
      have performed := carries.perform (carried call (List.mem_cons_self ..)) tripled_lt
      rw [← perform_size journal call] at tripled_lt
      refine (ih performed (fun other member => carried other (List.mem_cons_of_mem _ member))
        tripled_lt).mono ?_
      rintro id ((earlier | first) | ⟨other, member, later⟩)
      · exact .inl earlier
      · exact .inr ⟨call, List.mem_cons_self .., first⟩
      · exact .inr ⟨other, List.mem_cons_of_mem _ member, later⟩

/-- As long as no packet is too far ahead, the pieces are the stream from the front on. -/
theorem Carries.flatten_chunks {journal : Journal} {calls : List WindowCall}
    (carries : journal.Carries stream length written)
    (carried : ∀ call ∈ calls, call.Carries stream length)
    (tripled_lt : 3 * max 1 (journal.size / length) < Word.count) {session : SessionJournal}
    (found : journal.session = some session)
    (near : ∀ moment ∈ journal.film calls,
      moment.StaysWithin ((session.capacity - 1) * session.length)) :
    ∃ count, (((journal.film calls).filterMap Moment.chunk?).map Prod.snd).flatten =
      piece stream session.next (count * length) := by
  induction calls generalizing journal session written with
  | nil => exact ⟨0, by rw [Nat.zero_mul]; rfl⟩
  | cons call calls ih =>
      have call_carried := carried call (List.mem_cons_self ..)
      obtain ⟨performed, performed_eq, length_eq, capacity_eq, step⟩ :=
        carries.valid.exists_session_perform found (ne_reset_of_carries call_carried)
      rw [film_cons] at near ⊢
      have later_near : ∀ moment ∈ (journal.perform call).1.film calls,
          moment.StaysWithin ((performed.capacity - 1) * performed.length) := by
        rw [capacity_eq, length_eq]
        exact fun moment member => near moment (List.mem_cons_of_mem _ member)
      have session_length := carries.length_eq session found
      obtain ⟨count, flatten_eq⟩ := ih (carries.perform call_carried tripled_lt)
        (fun other member => carried other (List.mem_cons_of_mem _ member))
        (by rwa [perform_size]) performed_eq later_near
      rcases step with ⟨payload, payload_eq, chunk_eq, next_eq⟩ | ⟨chunk_eq, stayed | moved⟩
      · refine ⟨count + 1, ?_⟩
        obtain ⟨rfl, -⟩ := carries.payload_eq session _ _ found payload_eq
        rw [List.filterMap_cons_some chunk_eq, List.map_cons, List.flatten_cons, flatten_eq,
          next_eq, session_length, piece_append, Nat.succ_mul, Nat.add_comm length]
      · refine ⟨count, ?_⟩
        rw [List.filterMap_cons_none chunk_eq, flatten_eq, stayed]
      · -- Only a packet too far ahead moves the front without a piece being taken.
        obtain ⟨-, packet, written, far⟩ := moved
        have front_eq : (journal.moment call).before.front? = some session.next := by
          rw [moment, window_front?, found, Option.map_some]
        have := near _ (List.mem_cons_self ..) _ _ front_eq written
        omega

theorem exists_start_of_written {call : WindowCall} (empty : journal.session = none)
    (length_pos : 0 < length) (carried : call.Carries stream length) {packet : PacketId}
    (written_eq : call.written? = some packet) :
    ∃ session, (journal.perform call).1.session = some session ∧ session.length = length ∧
      session.next = packet.val := by
  cases call with
  | write id payload =>
      obtain ⟨aligned, -, rfl⟩ := carried
      cases written_eq
      have payload_ne : piece stream packet.val length ≠ [] := by
        rw [← List.length_pos_iff, length_piece]
        exact length_pos
      have accepted : journal.rejection? packet (piece stream packet.val length) = none := by
        simp only [rejection?, empty, length_piece, if_neg payload_ne, if_pos aligned]
      refine ⟨.start journal.size packet (piece stream packet.val length), ?_, length_piece .., rfl⟩
      simp only [perform, write, accepted, accept, empty]
  | read => cases written_eq
  | covers id => cases written_eq
  | isMissing id => cases written_eq
  | reset => cases written_eq

/-- The pieces are the stream from the first packet that is written on. -/
theorem Carries.flatten_chunks_of_none {journal : Journal} {calls : List WindowCall}
    (carries : journal.Carries stream length written) (length_pos : 0 < length)
    (carried : ∀ call ∈ calls, call.Carries stream length)
    (tripled_lt : 3 * max 1 (journal.size / length) < Word.count) (empty : journal.session = none)
    (near : ∀ moment ∈ journal.film calls,
      moment.StaysWithin ((max 1 (journal.size / length) - 1) * length)) {first : PacketId}
    (written_eq : (journal.film calls).findSome? (·.call.written?) = some first) :
    ∃ count, (((journal.film calls).filterMap Moment.chunk?).map Prod.snd).flatten =
      piece stream first.val (count * length) := by
  induction calls generalizing journal written with
  | nil => cases written_eq
  | cons call calls ih =>
      have call_carried := carried call (List.mem_cons_self ..)
      have performed := carries.perform call_carried tripled_lt
      have calls_carried : ∀ call ∈ calls, call.Carries stream length :=
        fun other member => carried other (List.mem_cons_of_mem _ member)
      rw [film_cons] at near written_eq ⊢
      rw [List.filterMap_cons_none (chunk?_moment_of_none empty call)]
      have later_near : ∀ moment ∈ (journal.perform call).1.film calls,
          moment.StaysWithin ((max 1 (journal.size / length) - 1) * length) :=
        fun moment member => near moment (List.mem_cons_of_mem _ member)
      rw [← perform_size journal call] at later_near tripled_lt
      have moment_call : (journal.moment call).call = call := rfl
      rw [List.findSome?_cons, moment_call] at written_eq
      cases unwritten : call.written? with
      | none =>
          rw [unwritten] at written_eq
          exact ih performed calls_carried tripled_lt (perform_of_none empty unwritten) later_near
            written_eq
      | some packet =>
          rw [unwritten] at written_eq
          obtain rfl : packet = first := Option.some_inj.mp written_eq
          obtain ⟨session, opened, session_length, session_next⟩ :=
            exists_start_of_written empty length_pos call_carried unwritten
          have session_valid := performed.valid.session_valid session opened
          rw [← session_length, ← session_valid.capacity_eq] at later_near
          rw [← session_next]
          exact performed.flatten_chunks calls_carried tripled_lt opened later_near

theorem exists_mem_film {journal : Journal} {calls : List WindowCall} {call : WindowCall}
    (member : call ∈ calls) : ∃ moment ∈ journal.film calls, moment.call = call := by
  induction calls generalizing journal with
  | nil => cases member
  | cons first calls ih =>
      rw [film_cons]
      rcases List.mem_cons.mp member with rfl | member
      · exact ⟨_, List.mem_cons_self .., rfl⟩
      · obtain ⟨moment, moment_member, call_eq⟩ := ih member
        exact ⟨moment, List.mem_cons_of_mem _ moment_member, call_eq⟩

/-- A call that takes a piece takes what is remembered at the front, and moves the front by a step.
-/
theorem Valid.exists_of_chunk? (valid : journal.Valid) {call : WindowCall} (kept : call ≠ .reset)
    {id : Nat} {payload : Bytes} (chunk_eq : (journal.moment call).chunk? = some (id, payload)) :
    ∃ session performed, journal.session = some session ∧ session.payloads id = some payload ∧
      (journal.perform call).1.session = some performed ∧ performed.next = id + session.length ∧
      performed.length = session.length ∧ performed.capacity = session.capacity := by
  cases found : journal.session with
  | none =>
      rw [chunk?_moment_of_none found] at chunk_eq
      cases chunk_eq
  | some session =>
      obtain ⟨performed, performed_eq, length_eq, capacity_eq, step⟩ :=
        valid.exists_session_perform found kept
      rcases step with ⟨_, payload_eq, front_eq, next_eq⟩ | ⟨silent, -⟩
      · rw [front_eq] at chunk_eq
        cases chunk_eq
        exact ⟨session, performed, rfl, payload_eq, performed_eq, next_eq, length_eq, capacity_eq⟩
      · rw [silent] at chunk_eq
        cases chunk_eq

theorem after_size (journal : Journal) (calls : List WindowCall) :
    (journal.after calls).size = journal.size := by
  induction calls generalizing journal with
  | nil => rfl
  | cons call calls ih => exact (ih (journal.perform call).1).trans (journal.perform_size call)

theorem admits_of_mem_trace {journal : Journal} {calls : List WindowCall}
    (carried : ∀ call ∈ calls, call.Carries stream length)
    (tripled_lt : 3 * max 1 (journal.size / length) < Word.count) :
    ∀ moment ∈ journal.trace calls, moment.before.Admits moment.call := by
  induction calls generalizing journal with
  | nil => rintro _ ⟨⟩
  | cons call calls ih =>
      intro moment member
      rw [trace_cons] at member
      rcases List.mem_cons.mp member with rfl | member
      · exact admits_of_carries (carried call (List.mem_cons_self ..)) tripled_lt
      · have calls_carried : ∀ call ∈ calls, call.Carries stream length :=
          fun other member => carried other (List.mem_cons_of_mem _ member)
        rw [← perform_size journal call] at tripled_lt
        exact ih calls_carried tripled_lt moment member

/-- A piece that is played is a packet of the stream which was written before. -/
theorem Carries.chunk_written {journal : Journal} {calls : List WindowCall}
    (carries : journal.Carries stream length written)
    (carried : ∀ call ∈ calls, call.Carries stream length)
    (tripled_lt : 3 * max 1 (journal.size / length) < Word.count)
    {earlier later : List (Moment Window)} {current : Moment Window}
    (cut : journal.film calls = earlier ++ current :: later) {id : Nat} {payload : Bytes}
    (chunk_eq : current.chunk? = some (id, payload)) :
    payload = piece stream id length ∧
      (written id ∨ ∃ write ∈ earlier, write.call.written?.map Fin.val = some id) := by
  obtain ⟨past, call, future, rfl, rfl, rfl, -⟩ := exists_of_film_eq cut
  obtain ⟨past_carried, rest_carried⟩ := List.forall_mem_append.mp carried
  have reached := carries.after past_carried tripled_lt
  have kept := ne_reset_of_carries (List.forall_mem_cons.mp rest_carried).1
  obtain ⟨session, -, found, remembered, -⟩ := reached.valid.exists_of_chunk? kept chunk_eq
  obtain ⟨payload_eq, source⟩ := reached.payload_eq session id payload found remembered
  refine ⟨payload_eq, source.imp_right ?_⟩
  rintro ⟨write, member, written_eq⟩
  obtain ⟨moment, moment_member, call_eq⟩ := exists_mem_film member
  exact ⟨moment, moment_member, call_eq ▸ written_eq⟩

/-- Two pieces with none between them are adjacent, unless a packet that is written in the meantime
is too far ahead of where the first one leaves the front. -/
theorem Carries.chunk_adjacent {journal : Journal} {calls : List WindowCall}
    (carries : journal.Carries stream length written)
    (carried : ∀ call ∈ calls, call.Carries stream length)
    (tripled_lt : 3 * max 1 (journal.size / length) < Word.count)
    {earlier between later : List (Moment Window)} {first second : Moment Window}
    (cut : journal.film calls = earlier ++ first :: (between ++ second :: later)) {id nextId : Nat}
    {payload nextPayload : Bytes} (first_eq : first.chunk? = some (id, payload))
    (silent : ∀ moment ∈ between, moment.chunk? = none)
    (second_eq : second.chunk? = some (nextId, nextPayload)) :
    nextId = id + length ∨
      ∃ front, first.after.front? = some front ∧
        ∃ moment ∈ between, ∃ packet, moment.call.written? = some packet ∧
          front + (max 1 (journal.size / length) - 1) * length < packet.val := by
  obtain ⟨past, call, future, rfl, rfl, rfl, rest_eq⟩ := exists_of_film_eq cut
  obtain ⟨past_carried, rest_carried⟩ := List.forall_mem_append.mp carried
  obtain ⟨call_carried, future_carried⟩ := List.forall_mem_cons.mp rest_carried
  have reached := carries.after past_carried tripled_lt
  obtain ⟨session, performed, found, -, performed_eq, next_eq, length_eq, capacity_eq⟩ :=
    reached.valid.exists_of_chunk? (ne_reset_of_carries call_carried) first_eq
  have session_length := reached.length_eq session found
  have session_capacity := (reached.valid.session_valid session found).capacity_eq
  have next := (reached.valid.perform call).next_chunk
    (fun call member => ne_reset_of_carries (future_carried call member)) performed_eq rest_eq.symm
    silent second_eq
  rw [after_size, session_length] at session_capacity
  rw [capacity_eq, session_capacity, length_eq, session_length] at next
  rw [session_length] at next_eq
  refine next.imp (fun id_eq => id_eq.trans next_eq) fun far => ⟨performed.next, ?_, far⟩
  rw [moment, window_front?, performed_eq, Option.map_some]

end Journal

/-- Whatever packets of a stream are written to a window, and however they are mixed with reads and
questions, no call overflows and what is played is an extract of the stream. -/
theorem Window.plays_extract (stream : Nat → UInt8) (length : Nat) (size : Word)
    (calls : List WindowCall) (length_pos : 0 < length)
    (tripled_lt : 3 * max 1 (size.val / length) < Word.count)
    (carried : ∀ call ∈ calls, call.Carries stream length) :
    ∃ moments, Window.trace { size := size.val } calls = .ok moments ∧
      PlaysExtract stream length (max 1 (size.val / length)) moments := by
  have valid : ({ size := size.val } : Journal).Valid := .empty size.isLt
  have inRange : ({ size := size.val } : Journal).InRange := by rintro _ ⟨⟩
  have carries : ({ size := size.val } : Journal).Carries stream length (fun _ => False) :=
    ⟨valid, inRange, by rintro _ ⟨⟩, by rintro _ _ _ ⟨⟩⟩
  have kept : ∀ call ∈ calls, call ≠ .reset := fun call member =>
    Journal.ne_reset_of_carries (carried call member)
  have fits := Journal.fits_of_mem_trace inRange (Journal.admits_of_mem_trace carried tripled_lt)
  refine ⟨Journal.film { size := size.val } calls, valid.window_trace fits, ?_⟩
  constructor
  · intro earlier moment later id payload cut chunk_eq
    obtain ⟨payload_eq, source⟩ := carries.chunk_written carried tripled_lt cut chunk_eq
    exact ⟨payload_eq, source.resolve_left not_false⟩
  · exact (valid.ascending_film kept).1
  · intro earlier first between second later id payload nextId nextPayload cut first_eq silent
      second_eq
    exact carries.chunk_adjacent carried tripled_lt cut first_eq silent second_eq
  · exact fun near first written_eq =>
      carries.flatten_chunks_of_none length_pos carried tripled_lt rfl near written_eq

instance (stream : Nat → UInt8) (length : Nat) (call : WindowCall) :
    Decidable (call.Carries stream length) :=
  match call with
  | .write _ _ => inferInstanceAs (Decidable (_ ∧ _))
  | .reset => inferInstanceAs (Decidable False)
  | .read | .covers _ | .isMissing _ => inferInstanceAs (Decidable True)

/-- One piece is played before a packet arrives late and twice, and another one after it.  Then a
packet is too far ahead, and the piece that was next is given up. -/
theorem Window.plays_extract_of_bytes :
    ∃ moments,
      Window.trace { size := 6 }
          [.write 4 [4, 5], .write 8 [8, 9], .read, .read, .write 6 [6, 7], .write 6 [6, 7], .read,
            .write 16 [16, 17], .read] =
        .ok moments ∧
      moments.filterMap Moment.chunk? = [(4, [4, 5]), (6, [6, 7])] ∧
      PlaysExtract UInt8.ofNat 2 3 moments := by
  let calls : List WindowCall :=
    [.write 4 [4, 5], .write 8 [8, 9], .read, .read, .write 6 [6, 7], .write 6 [6, 7], .read,
      .write 16 [16, 17], .read]
  have played : (Window.trace { size := 6 } calls).map (List.filterMap Moment.chunk?) =
      .ok [(4, [4, 5]), (6, [6, 7])] := by
    decide +kernel
  obtain ⟨moments, traced, plays⟩ :=
    Window.plays_extract UInt8.ofNat 2 6 calls (by decide) (by decide) (by decide)
  have traced : Window.trace { size := 6 } calls = .ok moments := traced
  rw [traced] at played
  exact ⟨moments, traced, Except.ok.inj played, plays⟩

end Playback
end AudioMulticast
