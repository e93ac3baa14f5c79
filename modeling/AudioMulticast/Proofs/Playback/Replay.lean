import AudioMulticast.Proofs.Playback.PlayedStream
import AudioMulticast.Proofs.Playback.ReceptionSteps

/-!
# Playback that starts over

Until the packets are forgotten, playback moves forward.  Then the next packet of the session opens
a new window, wherever in the stream it is.  As long as every packet that opens a window is above
what has been played, playback never goes backwards, however often it starts over.  A retransmission
that arrives too late can open a window as well, and then audio is played a second time.
-/

namespace AudioMulticast
namespace Playback

/-- Id of the packet that an event has taken off the front. -/
def Occurrence.playedId? (occurrence : Occurrence) : Option Nat :=
  match occurrence.answer with
  | .played (some _) => occurrence.before.reception.window.front?
  | _ => none

/-- Id of the packet with which an event has opened a window. -/
def Occurrence.openedId? (occurrence : Occurrence) : Option Nat :=
  match occurrence.before.reception.window.session with
  | none => occurrence.after.reception.window.front?
  | some _ => none

/-- The packets that are played in a run. -/
def playedIds (record : List Occurrence) : List Nat :=
  record.filterMap Occurrence.playedId?

/-- Whether playback never goes backwards. -/
def Ascends (record : List Occurrence) : Prop :=
  (playedIds record).Pairwise (· < ·)

/-- Whether every packet that opens a window is above what was played before, which includes the
packets that are given here. -/
def OpensAbove (played : List Nat) : List Occurrence → Prop
  | [] => True
  | occurrence :: later =>
      (∀ id ∈ occurrence.openedId?, ∀ other ∈ played, other < id) ∧
        OpensAbove (played ++ occurrence.playedId?.toList) later

instance decidableOpensAbove : (played : List Nat) → (record : List Occurrence) →
    Decidable (OpensAbove played record)
  | _, [] => inferInstanceAs (Decidable True)
  | played, occurrence :: later =>
      have := decidableOpensAbove (played ++ occurrence.playedId?.toList) later
      inferInstanceAs (Decidable (_ ∧ _))

theorem playedIds_cons (occurrence : Occurrence) (later : List Occurrence) :
    playedIds (occurrence :: later) = occurrence.playedId?.toList ++ playedIds later := by
  cases played : occurrence.playedId? with
  | none => rw [playedIds, List.filterMap_cons_none played]; rfl
  | some id => rw [playedIds, List.filterMap_cons_some played]; rfl

theorem playedIds_append (earlier later : List Occurrence) :
    playedIds (earlier ++ later) = playedIds earlier ++ playedIds later :=
  List.filterMap_append

/-! ## Fronts move forward -/

theorem SessionJournal.next_le_read (journal : SessionJournal) :
    journal.next ≤ journal.read.1.next := by
  rcases journal.read_cases with ⟨-, read_eq⟩ | ⟨-, -, read_eq⟩ | ⟨-, _, -, read_eq⟩
  all_goals rw [read_eq]
  exact Nat.le_add_right _ _

/-- A piece that is found is the one at the front, and the front moves on by a step. -/
theorem Journal.exists_advance_of_read {journal : Journal} {payload : Bytes}
    (found : journal.read.2 = .chunk payload) :
    ∃ session, journal.session = some session ∧
      journal.read.1.session = some session.advance := by
  have kept : WindowCall.read ≠ .reset := by rintro ⟨⟩
  rcases journal.perform_cases kept with
    ⟨_, _, ⟨⟩, -⟩ | ⟨session, _, -, session_eq, -, -, performed_eq⟩ | ⟨-, silent⟩
  · have read_eq : journal.read.1 = { journal with session := some session.advance } :=
      congrArg Prod.fst performed_eq
    exact ⟨session, session_eq, by rw [read_eq]⟩
  · exact absurd (congrArg WindowAnswer.found found) (silent payload)

namespace TimedReception

variable {before after timed : TimedReception} {journal result : Journal} {event : ReceptionEvent}
  {answer : ReceptionAnswer} {played : List Nat}

/-- The front of a window never moves back, unless the window was empty. -/
theorem Effect.next_le (effect : before.Effect after journal event answer result)
    {reached : SessionJournal} (reached_eq : result.session = some reached) :
    journal.session = none ∨
      ∃ session, journal.session = some session ∧ session.next ≤ reached.next := by
  cases found : journal.session with
  | none => exact .inl rfl
  | some session =>
      refine .inr ⟨session, rfl, ?_⟩
      cases effect with
      | write arrives write_eq gaps_eq now_eq =>
          obtain ⟨-, rfl, -⟩ := Journal.write_eq_ok write_eq
          simp only [Journal.accept, found] at reached_eq
          cases reached_eq
          exact le_max_left _ _
      | play gaps_eq now_eq =>
          rw [Journal.read, found] at reached_eq
          cases reached_eq
          exact session.next_le_read
      | round =>
          cases found.symm.trans reached_eq
          exact Nat.le_refl _
      | reset => cases reached_eq
      | keep =>
          cases found.symm.trans reached_eq
          exact Nat.le_refl _

/-- A window that has a front keeps one until its packets are forgotten. -/
theorem Effect.exists_session (effect : before.Effect after journal event answer result)
    (kept : event ≠ .reset) {session : SessionJournal} (found : journal.session = some session) :
    ∃ reached, result.session = some reached := by
  cases effect with
  | write arrives write_eq gaps_eq now_eq =>
      obtain ⟨-, rfl, -⟩ := Journal.write_eq_ok write_eq
      exact ⟨_, rfl⟩
  | play gaps_eq now_eq => exact ⟨session.read.1, by rw [Journal.read, found]⟩
  | round => exact ⟨session, found⟩
  | reset => exact absurd rfl kept
  | keep => exact ⟨session, found⟩

theorem play_of_perform {payload : Bytes}
    (performed : timed.perform event = .ok (after, .played (some payload))) :
    ∃ received, timed.reception.play = .ok (received, some payload) ∧
      after = { timed with reception := received } := by
  cases event with
  | datagram bytes =>
      obtain ⟨⟨received, outcome⟩, -, done⟩ := Overflow.bind_eq_ok_iff.mp performed
      cases outcome with
      | error error => cases done
      | ok missed => cases done
  | receive packet =>
      obtain ⟨_, -, done⟩ := Overflow.bind_eq_ok_iff.mp performed
      cases done
  | play =>
      obtain ⟨⟨received, piece⟩, play_eq, done⟩ := Overflow.bind_eq_ok_iff.mp performed
      cases done
      exact ⟨received, play_eq, rfl⟩
  | round forgotten => cases performed
  | collect => cases performed
  | choose station => cases performed
  | demand => cases performed
  | reset => cases performed
  | wait duration => cases performed

/-! ## Runs whose windows open above what was played -/

/-- What holds after pieces have been played in ascending order: the front is above them. -/
structure Ahead (played : List Nat) (timed : TimedReception) (journal : Journal) : Prop where
  follows : timed.reception.Follows journal
  ascending : played.Pairwise (· < ·)
  behind : ∀ session, journal.session = some session → ∀ id ∈ played, id < session.next

theorem ahead_new (size : Word) (interval : Nat) :
    (new size.val interval).Ahead [] { size := size.val } where
  follows := Reception.follows_new size interval
  ascending := .nil
  behind := by rintro _ ⟨⟩

/-- Playback of the piece at the front. -/
theorem Ahead.advance {session : SessionJournal} (ahead : timed.Ahead played journal)
    (follows : after.reception.Follows result)
    (found : journal.session = some session) (advanced : result.session = some session.advance) :
    after.Ahead (played ++ [session.next]) result where
  follows := follows
  ascending := by
    refine List.pairwise_append.mpr ⟨ahead.ascending, List.pairwise_singleton _ _, ?_⟩
    intro id member other member'
    obtain rfl := List.mem_singleton.mp member'
    exact ahead.behind session found id member
  behind := by
    intro reached reached_eq id member
    cases advanced.symm.trans reached_eq
    have length_pos := (ahead.follows.valid.session_valid session found).length_pos
    have less : session.next < session.advance.next := Nat.lt_add_of_pos_right length_pos
    rcases List.mem_append.mp member with member | member
    · exact (ahead.behind session found id member).trans less
    · obtain rfl := List.mem_singleton.mp member
      exact less

/-- An event after which the front is the same or higher, unless it opens a window, which is above
what was played. -/
theorem Ahead.keep (ahead : timed.Ahead played journal)
    (follows : after.reception.Follows result)
    (effect : timed.Effect after journal event answer result)
    (above : ∀ id ∈ Occurrence.openedId? ⟨timed, event, answer, after⟩, ∀ other ∈ played,
      other < id) :
    after.Ahead played result where
  follows := follows
  ascending := ahead.ascending
  behind := by
    intro reached reached_eq id member
    rcases effect.next_le reached_eq with empty | ⟨session, found, next_le⟩
    · refine above reached.next ?_ id member
      simp only [Occurrence.openedId?, ahead.follows.window_eq, follows.window_eq, Journal.window,
        empty, reached_eq, Option.map_none, Window.front?]
      rfl
    · exact (ahead.behind session found id member).trans_le next_le

/-- An event plays the piece at the front or nothing. -/
theorem Ahead.exists_of_perform (ahead : timed.Ahead played journal)
    (performed : timed.perform event = .ok (after, answer))
    (above : ∀ id ∈ Occurrence.openedId? ⟨timed, event, answer, after⟩, ∀ other ∈ played,
      other < id) :
    ∃ result, after.Ahead
      (played ++ (Occurrence.playedId? ⟨timed, event, answer, after⟩).toList) result := by
  by_cases taken : ∃ payload, answer = .played (some payload)
  · obtain ⟨payload, rfl⟩ := taken
    obtain ⟨received, play_eq, rfl⟩ := play_of_perform performed
    obtain ⟨follows, -, reading_eq⟩ := ahead.follows.play_cases play_eq
    obtain ⟨session, found, advanced⟩ :=
      Journal.exists_advance_of_read (reading_eq payload rfl)
    have id_eq : Occurrence.playedId?
        ⟨timed, event, .played (some payload), { timed with reception := received }⟩ =
          some session.next := by
      simp only [Occurrence.playedId?, ahead.follows.window_eq, Journal.window_front?, found,
        Option.map_some]
    rw [id_eq, Option.toList_some]
    exact ⟨_, ahead.advance follows found advanced⟩
  · obtain ⟨result, follows, effect⟩ := exists_effect ahead.follows performed
    have id_eq : Occurrence.playedId? ⟨timed, event, answer, after⟩ = none := by
      rw [Occurrence.playedId?]
      split
      · next payload answer_eq => exact absurd ⟨payload, answer_eq⟩ taken
      · rfl
    rw [id_eq, Option.toList_none, List.append_nil]
    exact ⟨result, ahead.keep follows effect above⟩

theorem Ahead.exists_of_trace {events : List ReceptionEvent} {record : List Occurrence}
    (ahead : timed.Ahead played journal) (traced : timed.trace events = .ok record)
    (above : OpensAbove played record) :
    ∃ last result, timed.run events = .ok last ∧
      last.Ahead (played ++ playedIds record) result := by
  induction events generalizing timed journal played record with
  | nil =>
      cases traced
      exact ⟨timed, journal, rfl, by rwa [playedIds, List.filterMap_nil, List.append_nil]⟩
  | cons event events ih =>
      obtain ⟨after, answer, rest, performed, rest_eq, rfl⟩ := trace_cons_eq_ok_iff.mp traced
      obtain ⟨opened, above⟩ := above
      obtain ⟨result, ahead⟩ := ahead.exists_of_perform performed opened
      rw [playedIds_cons, ← List.append_assoc, run, performed]
      exact ih ahead rest_eq above

/-- No packet opens a window that has a front already. -/
theorem opensAbove_of_session {events : List ReceptionEvent} {record : List Occurrence}
    {session : SessionJournal} (follows : timed.reception.Follows journal)
    (found : journal.session = some session) (kept : .reset ∉ events)
    (traced : timed.trace events = .ok record) : OpensAbove played record := by
  induction events generalizing timed journal session played record with
  | nil =>
      cases traced
      trivial
  | cons event events ih =>
      obtain ⟨after, answer, rest, performed, rest_eq, rfl⟩ := trace_cons_eq_ok_iff.mp traced
      rw [List.mem_cons, not_or] at kept
      obtain ⟨result, followed, effect⟩ := exists_effect follows performed
      obtain ⟨reached, reached_eq⟩ := effect.exists_session (Ne.symm kept.1) found
      refine ⟨?_, ih followed reached_eq kept.2 rest_eq⟩
      simp only [Occurrence.openedId?, follows.window_eq, Journal.window, found, Option.map_some]
      rintro _ ⟨⟩

/-- Nothing is played before a window is opened, and no other one is opened then. -/
theorem opensAbove_nil {events : List ReceptionEvent} {record : List Occurrence}
    (follows : timed.reception.Follows journal) (kept : .reset ∉ events)
    (traced : timed.trace events = .ok record) : OpensAbove [] record := by
  induction events generalizing timed journal record with
  | nil =>
      cases traced
      trivial
  | cons event events ih =>
      cases found : journal.session with
      | some session => exact opensAbove_of_session follows found kept traced
      | none =>
          obtain ⟨after, answer, rest, performed, rest_eq, rfl⟩ := trace_cons_eq_ok_iff.mp traced
          rw [List.mem_cons, not_or] at kept
          obtain ⟨result, followed, -⟩ := exists_effect follows performed
          have silent : Occurrence.playedId? ⟨timed, event, answer, after⟩ = none := by
            rw [Occurrence.playedId?]
            split
            · simp only [follows.window_eq, Journal.window_front?, found, Option.map_none]
            · rfl
          refine ⟨by rintro _ - _ ⟨⟩, ?_⟩
          rw [silent]
          exact ih followed kept.2 rest_eq

/-- Whatever was played before, playback moves forward until the packets are forgotten. -/
theorem ascends_of_trace {events : List ReceptionEvent} {record : List Occurrence}
    (follows : timed.reception.Follows journal) (kept : .reset ∉ events)
    (traced : timed.trace events = .ok record) : Ascends record := by
  have start : timed.Ahead [] journal := ⟨follows, .nil, by rintro _ _ _ ⟨⟩⟩
  obtain ⟨_, _, -, ahead⟩ := start.exists_of_trace traced (opensAbove_nil follows kept traced)
  exact ahead.ascending

theorem exists_follows_of_run {events : List ReceptionEvent} {last : TimedReception}
    (follows : timed.reception.Follows journal) (ran : timed.run events = .ok last) :
    ∃ result, last.reception.Follows result := by
  induction events generalizing timed journal with
  | nil =>
      cases ran
      exact ⟨journal, follows⟩
  | cons event events ih =>
      obtain ⟨⟨after, answer⟩, performed, ran⟩ := Overflow.bind_eq_ok_iff.mp ran
      obtain ⟨result, followed, -⟩ := exists_effect follows performed
      exact ih followed ran

/-! ## A packet that opens a window -/

end TimedReception

/-- Bytes between the first packet of a window and the packet with which playback starts. -/
def Window.distance (window : Window) (length : Nat) : Nat :=
  max 1 (window.size / length) * 3 / 4 * length

/-- A packet opens the empty window, and there is room behind it for the packets that have to arrive
before it is played. -/
structure Reception.Opens (reception : Reception) (packet : DataPacket) : Prop where
  lowered : reception.tuning.restart = false
  current : packet.session = reception.tuning.session
  empty : reception.window.session = none
  payload_ne : packet.payload ≠ []
  aligned : packet.payload.length ∣ packet.id.val
  tripled_lt : 3 * max 1 (reception.window.size / packet.payload.length) < Word.count
  end_lt :
    packet.id.val + reception.window.distance packet.payload.length + packet.payload.length <
      Word.count

/-! ## The first packet of a window is played -/

section Filled

variable {size : Nat} {id filler : PacketId} {payload : Bytes}

/-- The packet with which playback starts does not leave the first one behind, which is found then.
-/
theorem SessionJournal.read_of_filled
    (filler_eq : filler.val =
      id.val + max 1 (size / payload.length) * 3 / 4 * payload.length) :
    ((start size id payload).accept filler payload).next = id.val ∧
      ((start size id payload).accept filler payload).read.2 = .chunk payload := by
  have quarters_le :
      max 1 (size / payload.length) * 3 / 4 ≤ max 1 (size / payload.length) - 1 := by
    generalize size / payload.length = whole
    omega
  have distance_le := Nat.mul_le_mul_right payload.length quarters_le
  have next_eq : ((start size id payload).accept filler payload).next = id.val := by
    simp only [accept, start]
    omega
  have top_eq : ((start size id payload).accept filler payload).top = filler.val := by
    simp only [accept, start]
    omega
  have readable : ((start size id payload).accept filler payload).isReadable := by
    rw [isReadable, decide_eq_true_eq, accept_threshold, top_eq, filler_eq]
    exact Nat.min_le_left _ _
  have payload_eq :
      ((start size id payload).accept filler payload).payloads id.val = some payload := by
    simp only [accept, start]
    by_cases same : id.val = filler.val
    · rw [same, Function.update_self]
    · rw [Function.update_of_ne same, Function.update_self]
  refine ⟨next_eq, ?_⟩
  rw [read, if_pos ⟨readable, by omega⟩, next_eq, payload_eq]

theorem Journal.write_of_start (aligned : payload.length ∣ filler.val) :
    ({ size, session := some (.start size id payload) } : Journal).write filler payload =
      .ok ({ size, session := some ((SessionJournal.start size id payload).accept filler payload) },
        (SessionJournal.start size id payload).revealed filler payload) := by
  have accepted :
      ({ size, session := some (.start size id payload) } : Journal).rejection? filler payload =
        none :=
    (Journal.accepted_iff_of_some rfl).mpr ⟨rfl, aligned⟩
  rw [Journal.write, accepted]
  rfl

end Filled

namespace Reception.Opens

variable {reception : Reception} {packet : DataPacket} {journal : Journal}

theorem write_eq (opens : reception.Opens packet) (follows : reception.Follows journal) :
    journal.write packet.id packet.payload =
      .ok ({ journal with session := some (.start journal.size packet.id packet.payload) },
        []) := by
  have empty := follows.session_eq_none_iff.mp opens.empty
  have accepted : journal.rejection? packet.id packet.payload = none :=
    (Journal.accepted_iff_of_none empty).mpr ⟨opens.payload_ne, opens.aligned⟩
  rw [Journal.write, accepted]
  simp only [Journal.accept, empty]

theorem fits (opens : reception.Opens packet) (follows : reception.Follows journal) :
    journal.Fits (.write packet.id packet.payload) := by
  intro _ _
  rw [← follows.size_eq]
  exact opens.tripled_lt

theorem exists_filler (opens : reception.Opens packet) :
    ∃ filler : PacketId,
      filler.val = packet.id.val + reception.window.distance packet.payload.length :=
  ⟨⟨_, (Nat.le_add_right _ _).trans_lt opens.end_lt⟩, rfl⟩

end Reception.Opens

namespace TimedReception

variable {before after timed : TimedReception} {journal : Journal} {event : ReceptionEvent}
  {answer : ReceptionAnswer} {played : List Nat} {packet : DataPacket}

theorem exists_perform_receive {written : Journal} {missed : List PacketId}
    (follows : timed.reception.Follows journal) (lowered : timed.reception.tuning.restart = false)
    (current : packet.session = timed.reception.tuning.session)
    (fits : journal.Fits (.write packet.id packet.payload))
    (write_eq : journal.write packet.id packet.payload = .ok (written, missed)) :
    ∃ after, timed.perform (.receive packet) = .ok (after, .revealed missed) ∧
      after.reception.Follows written ∧ after.reception.tuning = timed.reception.tuning := by
  refine ⟨{ timed with
    reception := { timed.reception with
      window := written.window
      gaps := timed.reception.gaps.add missed timed.now } },
    ?_, ⟨follows.valid.write write_eq, rfl⟩, rfl⟩
  rw [perform, follows.receive_of_write lowered current fits write_eq]
  rfl

/-- A packet that opens a window above everything that was played keeps playback moving forward. -/
theorem Ahead.pairwise_of_opens {later : List ReceptionEvent} {rest : List Occurrence}
    (ahead : timed.Ahead played journal) (opens : timed.reception.Opens packet)
    (above : ∀ other ∈ played, other < packet.id.val) (kept : .reset ∉ later)
    (traced : timed.trace (.receive packet :: later) = .ok rest) :
    (played ++ playedIds rest).Pairwise (· < ·) := by
  obtain ⟨opened, performed, follows, -⟩ := exists_perform_receive ahead.follows opens.lowered
    opens.current (opens.fits ahead.follows) (opens.write_eq ahead.follows)
  obtain ⟨_, _, record, performed', record_eq, rfl⟩ := trace_cons_eq_ok_iff.mp traced
  cases performed.symm.trans performed'
  have opened_above :
      OpensAbove played (⟨timed, .receive packet, .revealed [], opened⟩ :: record) := by
    refine ⟨?_, opensAbove_of_session follows rfl kept record_eq⟩
    simp only [Occurrence.openedId?, opens.empty, follows.window_eq, Journal.window_front?,
      Option.map_some]
    rintro _ ⟨⟩
    exact above
  obtain ⟨_, _, -, ahead⟩ := ahead.exists_of_trace traced opened_above
  exact ahead.ascending

theorem exists_perform_play {payload : Bytes} {session : SessionJournal}
    (follows : timed.reception.Follows journal) (found : journal.session = some session)
    (reading_eq : session.read.2 = .chunk payload)
    (end_lt : session.next + session.length < Word.count) :
    ∃ after, timed.perform .play = .ok (after, .played (some payload)) := by
  have fits : journal.Fits .read := by
    rintro other _ other_eq -
    cases found.symm.trans other_eq
    exact end_lt
  have read_eq : journal.read = (journal.read.1, .chunk payload) := by
    rw [Journal.read, found]
    exact congrArg (Prod.mk _) reading_eq
  refine ⟨{ timed with
    reception := { timed.reception with window := journal.read.1.window } }, ?_⟩
  rw [perform, follows.play_of_read fits read_eq]
  rfl

/-- A packet that opens a window is played once those after it have arrived, whatever was played
before. -/
theorem exists_trace_of_opens (follows : timed.reception.Follows journal)
    (opens : timed.reception.Opens packet) {filler : PacketId}
    (filler_eq :
      filler.val = packet.id.val + timed.reception.window.distance packet.payload.length) :
    ∃ rest, timed.trace [.receive packet, .receive { packet with id := filler }, .play] = .ok rest ∧
      playedIds rest = [packet.id.val] := by
  have end_lt := opens.end_lt
  rw [Window.distance, follows.size_eq] at end_lt filler_eq
  have aligned : packet.payload.length ∣ filler.val := by
    rw [filler_eq]
    exact Nat.dvd_add opens.aligned (Nat.dvd_mul_left _ _)
  obtain ⟨opened, performed, opened_follows, tuning_eq⟩ := exists_perform_receive follows
    opens.lowered opens.current (opens.fits follows) (opens.write_eq follows)
  have lowered := opens.lowered
  have current := opens.current
  rw [← tuning_eq] at lowered current
  obtain ⟨filled, performed_filler, filled_follows, -⟩ :
      ∃ after, opened.perform (.receive { packet with id := filler }) = .ok (after, .revealed _) ∧
        _ :=
    exists_perform_receive opened_follows lowered current (by rintro ⟨⟩)
      (Journal.write_of_start aligned)
  obtain ⟨next_eq, reading_eq⟩ := SessionJournal.read_of_filled filler_eq
  have next_end_lt : packet.id.val + packet.payload.length < Word.count := by omega
  rw [← next_eq] at next_end_lt
  obtain ⟨after, performed_play⟩ :=
    exists_perform_play filled_follows rfl reading_eq next_end_lt
  have traced_end : after.trace [] = .ok [] := rfl
  have traced_play := trace_cons_eq_ok_iff.mpr ⟨after, _, _, performed_play, traced_end, rfl⟩
  have traced_filler := trace_cons_eq_ok_iff.mpr ⟨filled, _, _, performed_filler, traced_play, rfl⟩
  have traced := trace_cons_eq_ok_iff.mpr ⟨opened, _, _, performed, traced_filler, rfl⟩
  refine ⟨_, traced, ?_⟩
  simp only [playedIds, List.filterMap_cons, Occurrence.playedId?, filled_follows.window_eq,
    Journal.window_front?, Option.map_some, next_eq, List.filterMap_nil]

/-- Up to the next reset, playback never goes backwards.  As long as every packet that opens a
window is above what was played before, it never does at all.  Then it goes on like that up to the
next reset, whatever happens after a packet has opened the next window, exactly if that packet is
above what was played as well. -/
theorem ascends_append_iff {size : Word} {interval : Nat} {events : List ReceptionEvent}
    {record : List Occurrence} {last : TimedReception}
    (traced : (new size.val interval).trace events = .ok record)
    (ran : (new size.val interval).run events = .ok last) :
    (∀ later rest, .reset ∉ later → last.trace later = .ok rest → Ascends rest) ∧
      (OpensAbove [] record →
        Ascends record ∧
          ∀ packet, last.reception.Opens packet →
            ((∀ later rest, .reset ∉ later → last.trace (.receive packet :: later) = .ok rest →
                Ascends (record ++ rest)) ↔
              ∀ other ∈ playedIds record, other < packet.id.val)) := by
  constructor
  · intro later rest kept rest_eq
    obtain ⟨journal, follows⟩ := exists_follows_of_run (Reception.follows_new size interval) ran
    exact ascends_of_trace follows kept rest_eq
  intro above
  obtain ⟨reached, journal, ran', ahead⟩ := (ahead_new size interval).exists_of_trace traced above
  obtain rfl : last = reached := Except.ok.inj (ran.symm.trans ran')
  rw [List.nil_append] at ahead
  refine ⟨ahead.ascending, fun packet opens => ⟨fun ascends other member => ?_, ?_⟩⟩
  · obtain ⟨filler, filler_eq⟩ := opens.exists_filler
    obtain ⟨rest, rest_eq, played_eq⟩ := exists_trace_of_opens ahead.follows opens filler_eq
    have replayed := ascends _ rest (by simp) rest_eq
    rw [Ascends, playedIds_append, played_eq] at replayed
    exact (List.pairwise_append.mp replayed).2.2 other member _ (List.mem_singleton_self _)
  · intro above later rest kept rest_eq
    rw [Ascends, playedIds_append]
    exact ahead.pairwise_of_opens opens above kept rest_eq

/-- Two packets are played before the third turns out to be missing, and playback starts over. -/
def holeMet : List ReceptionEvent :=
  [.receive ⟨7, 0, [0, 0]⟩, .collect, .reset, .receive ⟨7, 0, [0, 0]⟩, .receive ⟨7, 2, [1, 1]⟩,
    .play, .play, .receive ⟨7, 6, [3, 3]⟩, .play, .collect, .reset]

/-- After a hole, playback moves on with the next packet, but not with a retransmission of the first
one. -/
theorem ascends_append_iff_of_holeMet :
    ∃ record last, (new 4 250).trace holeMet = .ok record ∧ (new 4 250).run holeMet = .ok last ∧
      OpensAbove [] record ∧ Ascends record ∧ playedIds record = [0, 2] ∧
      (last.reception.Opens ⟨7, 8, [4, 4]⟩ ∧
        ∀ later rest, .reset ∉ later → last.trace (.receive ⟨7, 8, [4, 4]⟩ :: later) = .ok rest →
          Ascends (record ++ rest)) ∧
      (last.reception.Opens ⟨7, 0, [0, 0]⟩ ∧
        ¬∀ later rest, .reset ∉ later → last.trace (.receive ⟨7, 0, [0, 0]⟩ :: later) = .ok rest →
          Ascends (record ++ rest)) := by
  have shown :
      ((new 4 250).trace holeMet).map
          (fun record => (decide (OpensAbove [] record), playedIds record)) =
        .ok (true, [0, 2]) := by
    decide +kernel
  have reached :
      ((new 4 250).run holeMet).map
          (fun last => (last.reception.tuning, last.reception.window)) =
        .ok ({ session := 7 }, { size := 4 }) := by
    decide +kernel
  obtain ⟨record, traced, view_eq⟩ := Overflow.map_eq_ok_iff.mp shown
  obtain ⟨last, ran, state_eq⟩ := Overflow.map_eq_ok_iff.mp reached
  obtain ⟨above, played_eq⟩ := Prod.mk.inj view_eq
  obtain ⟨tuning_eq, window_eq⟩ := Prod.mk.inj state_eq
  have opens_next : last.reception.Opens ⟨7, 8, [4, 4]⟩ := by
    constructor <;> simp only [tuning_eq, window_eq] <;> decide
  have opens_first : last.reception.Opens ⟨7, 0, [0, 0]⟩ := by
    constructor <;> simp only [tuning_eq, window_eq] <;> decide
  have above := of_decide_eq_true above
  obtain ⟨ascends, append_iff⟩ := (@ascends_append_iff 4 250 _ _ _ traced ran).2 above
  refine ⟨record, last, traced, ran, above, ascends, played_eq, ⟨opens_next, ?_⟩, opens_first, ?_⟩
  · rw [append_iff _ opens_next, played_eq]
    decide
  · rw [append_iff _ opens_first, played_eq]
    decide

end TimedReception

/-! ## A retransmission that arrives too late -/

/-- Whether an event brings a packet of a stream that is cut into packets of `length` bytes, or is
one of playback and of the reset monitor. -/
def ReceptionEvent.IsOfStream (stream : Nat → UInt8) (session : SessionId) (length : Nat) :
    ReceptionEvent → Prop
  | .receive packet =>
      packet.session = session ∧ length ∣ packet.id.val ∧ packet.id.val + length < Word.count ∧
        packet.payload = piece stream packet.id.val length
  | .play | .collect | .reset => True
  | _ => False

instance (stream : Nat → UInt8) (session : SessionId) (length : Nat) (event : ReceptionEvent) :
    Decidable (event.IsOfStream stream session length) :=
  match event with
  | .receive _ => inferInstanceAs (Decidable (_ ∧ _))
  | .play | .collect | .reset => inferInstanceAs (Decidable True)
  | .datagram _ | .round _ | .choose _ | .demand | .wait _ => inferInstanceAs (Decidable False)

/-- Whether the flag was found raised. -/
def ReceptionAnswer.raised : ReceptionAnswer → Bool
  | .collected _ raised => raised
  | _ => false

/-- Whether packets are forgotten exactly where the flag has just been found raised, which is given
here for the first event. -/
def IsMonitored (raised : Bool) : List Occurrence → Prop
  | [] => raised = false
  | occurrence :: later =>
      (occurrence.event = .reset ↔ raised = true) ∧ IsMonitored occurrence.answer.raised later

instance decidableIsMonitored : (raised : Bool) → (record : List Occurrence) →
    Decidable (IsMonitored raised record)
  | raised, [] => inferInstanceAs (Decidable (raised = false))
  | _, occurrence :: later =>
      have := decidableIsMonitored occurrence.answer.raised later
      inferInstanceAs (Decidable (_ ∧ _))

namespace TimedReception

/-- The packets that were played before the hole are sent once more, and arrive first. -/
def latePackets : List ReceptionEvent :=
  holeMet ++ [.receive ⟨7, 0, [0, 0]⟩, .receive ⟨7, 2, [1, 1]⟩, .play]

/-- Playback of a stream does not always move forward, even if only the monitor makes it start over.
-/
theorem not_forall_ascends :
    ¬∀ (size : Word) (interval : Nat) (stream : Nat → UInt8) (session : SessionId) (length : Nat)
        (events : List ReceptionEvent) (record : List Occurrence),
        (∀ event ∈ events, event.IsOfStream stream session length) →
          (new size.val interval).trace events = .ok record → IsMonitored false record →
            Ascends record := by
  intro ascends
  have shown :
      ((new 4 250).trace latePackets).map
          (fun record => (decide (IsMonitored false record), playedIds record)) =
        .ok (true, [0, 2, 0]) := by
    decide +kernel
  obtain ⟨record, traced, view_eq⟩ := Overflow.map_eq_ok_iff.mp shown
  obtain ⟨monitored, played_eq⟩ := Prod.mk.inj view_eq
  have carried : ∀ event ∈ latePackets,
      event.IsOfStream (fun offset => UInt8.ofNat (offset / 2)) 7 2 := by
    decide
  have replayed := ascends 4 250 _ 7 2 latePackets record carried traced
    (of_decide_eq_true monitored)
  rw [Ascends, played_eq] at replayed
  revert replayed
  decide

end TimedReception
end Playback
end AudioMulticast
