import AudioMulticast.Proofs.Playback.GapPursuit
import AudioMulticast.Proofs.Playback.PlayedStream
import Mathlib.Data.List.Induction

/-!
# How gaps are reported

A write reports the packets that it reveals as missing.  Within one session every gap is reported
exactly once: what one write reports is neither reported nor accepted before, and the packets that a
window misses are those that were reported and have neither been accepted nor left behind by the
front since.
-/

namespace AudioMulticast
namespace Playback

/-- The packets that a call reports as missing. -/
def Moment.missed (moment : Moment Window) : List PacketId :=
  match moment.answer with
  | .stored missed => missed
  | _ => []

/-- The packet that a call has accepted. -/
def Moment.accepted? (moment : Moment Window) : Option PacketId :=
  match moment.call, moment.answer with
  | .write id _, .stored _ => some id
  | _, _ => none

/-- Whether a call neither accepts a packet nor leaves it behind the front. -/
def Moment.Spares (moment : Moment Window) (id : PacketId) : Prop :=
  moment.accepted? ≠ some id ∧ ∀ front, moment.after.front? = some front → front ≤ id.val

/-- Whether a packet has been reported as missing, and has neither been accepted nor left behind the
front since. -/
def IsOutstanding (moments : List (Moment Window)) (id : PacketId) : Prop :=
  ∃ earlier report later, moments = earlier ++ report :: later ∧ id ∈ report.missed ∧
    ∀ moment ∈ later, moment.Spares id

/-- The window after a recorded run. -/
def Window.last (window : Window) (moments : List (Moment Window)) : Window :=
  (moments.getLast?.map Moment.after).getD window

/-- A recorded run that reports each gap once. -/
structure ReportsGaps (start : Window) (moments : List (Moment Window)) : Prop where
  /-- No packet is reported by two calls. -/
  disjoint : (moments.map Moment.missed).Pairwise List.Disjoint
  /-- A call reports no packet twice, and lower ids first. -/
  ascending : ∀ moment ∈ moments, moment.missed.Pairwise (· < ·)
  /-- A packet that is reported has not been accepted before. -/
  unaccepted :
    ∀ {earlier report later id}, moments = earlier ++ report :: later → id ∈ report.missed →
      ∀ moment ∈ earlier ++ [report], moment.accepted? ≠ some id
  /-- A packet that is reported is one of the stream, and inside the window then. -/
  inside :
    ∀ {report id}, report ∈ moments → id ∈ report.missed →
      report.after.covers id ∧
        ∃ session, report.after.session = some session ∧ id.isAligned session.payloadLength
  /-- At any time, the packets that are missing are the outstanding ones. -/
  isMissing_iff :
    ∀ {earlier later id}, moments = earlier ++ later →
      ((start.last earlier).isMissing id ↔ IsOutstanding earlier id)

/-! ## Outstanding packets -/

theorem isOutstanding_concat {moments : List (Moment Window)} {moment : Moment Window}
    {id : PacketId} :
    IsOutstanding (moments ++ [moment]) id ↔
      id ∈ moment.missed ∨ IsOutstanding moments id ∧ moment.Spares id := by
  constructor
  · rintro ⟨earlier, report, later, cut, reported, spared⟩
    rcases List.eq_nil_or_concat' later with rfl | ⟨later, last, rfl⟩
    · obtain ⟨-, same⟩ := List.append_inj' cut rfl
      cases same
      exact .inl reported
    · rw [← List.cons_append, ← List.append_assoc] at cut
      obtain ⟨rfl, same⟩ := List.append_inj' cut rfl
      cases same
      rw [List.forall_mem_append] at spared
      exact .inr ⟨⟨earlier, report, later, rfl, reported, spared.1⟩,
        spared.2 moment (List.mem_singleton_self moment)⟩
  · rintro (reported | ⟨⟨earlier, report, later, rfl, reported, spared⟩, last⟩)
    · exact ⟨moments, moment, [], rfl, reported, by rintro _ ⟨⟩⟩
    · refine ⟨earlier, report, later ++ [moment], ?_, reported, ?_⟩
      · rw [List.append_assoc, List.cons_append]
      · exact List.forall_mem_append.mpr ⟨spared, List.forall_mem_singleton.mpr last⟩

/-! ## What a call does to the gaps -/

namespace SessionJournal

variable {size : Nat} {journal : SessionJournal} {id other : PacketId} {payload : Bytes}

/-- Once a packet has been accepted, those are missing that it reveals, and those that were missing
before, are other ones, and are not left behind. -/
theorem Valid.isMissing_accept_iff (valid : journal.Valid size) :
    (journal.accept id payload).isMissing other ↔
      other ∈ journal.revealed id payload ∨
        journal.isMissing other ∧ other ≠ id ∧
          (journal.accept id payload).next ≤ other.val := by
  have top_eq : (journal.accept id payload).top = max journal.top id.val := rfl
  have next_le : journal.next ≤ (journal.accept id payload).next := le_max_left _ _
  have payloads_of_ne (different : other ≠ id) :
      (journal.accept id payload).payloads other.val = journal.payloads other.val :=
    Function.update_of_ne (Fin.val_ne_of_ne different) _ _
  constructor
  · intro missing
    have different : other ≠ id := by
      rintro rfl
      simp [isMissing_iff, SessionJournal.accept] at missing
    refine (journal.isMissing_of_accept missing).symm.imp_right fun before => ?_
    exact ⟨before, different, (isMissing_iff.mp missing).1.1⟩
  · rintro (revealed | ⟨missing, different, ahead⟩)
    · obtain ⟨less, aligned, top_lt, ahead⟩ := mem_revealed.mp revealed
      have different : other ≠ id := by
        rintro rfl
        exact Nat.lt_irrefl _ less
      refine isMissing_iff.mpr ⟨⟨ahead, by omega⟩, aligned, ?_⟩
      rw [payloads_of_ne different, valid.payloads_of_top_lt other.val top_lt]
    · obtain ⟨⟨-, le_top⟩, aligned, absent⟩ := isMissing_iff.mp missing
      refine isMissing_iff.mpr ⟨⟨ahead, by omega⟩, aligned, ?_⟩
      rw [payloads_of_ne different, absent]

/-- Once a piece has been taken, what was missing still is, unless it is left behind. -/
theorem isMissing_read_iff :
    journal.read.1.isMissing id ↔ journal.isMissing id ∧ journal.read.1.next ≤ id.val := by
  constructor
  · exact fun missing =>
      ⟨journal.isMissing_of_read missing, (isMissing_iff.mp missing).1.1⟩
  · rintro ⟨missing, ahead⟩
    obtain ⟨⟨-, le_top⟩, aligned, absent⟩ := isMissing_iff.mp missing
    refine isMissing_iff.mpr ⟨⟨ahead, by rwa [read_top]⟩, ?_, by rwa [read_payloads]⟩
    rwa [read_length]

end SessionJournal

namespace Journal

variable {journal : Journal} {call : WindowCall} {id : PacketId} {calls : List WindowCall}
  {moments : List (Moment Window)}

/-- A call other than a reset writes a packet, or it accepts and reports nothing. -/
theorem moment_cases (journal : Journal) (kept : call ≠ .reset) :
    (∃ id payload, journal.write id payload =
        .ok ((journal.perform call).1, (journal.moment call).missed) ∧
        (journal.moment call).accepted? = some id) ∨
      (((journal.perform call).1 = journal.read.1 ∨ (journal.perform call).1 = journal) ∧
        (journal.moment call).missed = [] ∧ (journal.moment call).accepted? = none) := by
  cases call with
  | write id payload =>
      cases write_eq : journal.write id payload with
      | error rejection =>
          refine .inr ⟨.inr ?_, ?_, ?_⟩
          all_goals simp [moment, perform, write_eq, Moment.missed, Moment.accepted?]
      | ok written =>
          refine .inl ⟨id, payload, ?_, ?_⟩
          all_goals simp [moment, perform, write_eq, Moment.missed, Moment.accepted?]
  | read => exact .inr ⟨.inl rfl, rfl, rfl⟩
  | covers id => exact .inr ⟨.inr rfl, rfl, rfl⟩
  | isMissing id => exact .inr ⟨.inr rfl, rfl, rfl⟩
  | reset => exact absurd rfl kept

theorem lacks_iff {session : SessionJournal} (found : journal.session = some session) :
    journal.Lacks id ↔ session.isMissing id := by
  simp [Lacks, found]

theorem Lacks.front_le (lacks : journal.Lacks id) :
    ∀ front, journal.window.front? = some front → front ≤ id.val := by
  obtain ⟨session, found, missing⟩ := lacks
  rw [window_front?, found]
  rintro _ ⟨⟩
  exact (SessionJournal.isMissing_iff.mp missing).1.1

/-- Once a packet has been written, those are missing that it reveals, and those that were missing
before, are other ones, and are not left behind. -/
theorem Valid.lacks_write_iff (valid : journal.Valid) {written : Journal} {other : PacketId}
    {payload : Bytes} {missed : List PacketId}
    (write_eq : journal.write other payload = .ok (written, missed)) :
    written.Lacks id ↔
      id ∈ missed ∨ journal.Lacks id ∧ other ≠ id ∧
        ∀ front, written.window.front? = some front → front ≤ id.val := by
  obtain ⟨-, rfl, rfl⟩ := write_eq_ok write_eq
  cases found : journal.session with
  | none =>
      have before : ¬journal.Lacks id := by
        rintro ⟨_, other_found, -⟩
        rw [found] at other_found
        cases other_found
      rw [lacks_iff rfl]
      simp [Journal.accept, found, before, SessionJournal.not_isMissing_start]
  | some session =>
      rw [lacks_iff rfl, lacks_iff found, window_front?]
      simp only [Journal.accept, found, (valid.session_valid session found).isMissing_accept_iff,
        Option.map_some, Option.some_inj, forall_eq', ne_comm]

theorem lacks_read_iff :
    journal.read.1.Lacks id ↔
      journal.Lacks id ∧ ∀ front, journal.read.1.window.front? = some front → front ≤ id.val := by
  refine ⟨fun lacks => ⟨lacks_of_read lacks, lacks.front_le⟩, ?_⟩
  rintro ⟨⟨session, found, missing⟩, ahead⟩
  have read_session : journal.read.1.session = some session.read.1 := by
    simp only [Journal.read, found]
  rw [window_front?, read_session] at ahead
  exact ⟨_, read_session, SessionJournal.isMissing_read_iff.mpr ⟨missing, ahead _ rfl⟩⟩

/-- What is missing after a call is what the call reports, and what was missing before and is
spared. -/
theorem Valid.lacks_perform_iff (valid : journal.Valid) (kept : call ≠ .reset) :
    (journal.perform call).1.Lacks id ↔
      id ∈ (journal.moment call).missed ∨ journal.Lacks id ∧ (journal.moment call).Spares id := by
  have after_eq : (journal.moment call).after = (journal.perform call).1.window := rfl
  rw [Moment.Spares, after_eq]
  rcases journal.moment_cases kept with
    ⟨other, payload, write_eq, accepted⟩ | ⟨read_eq | same, missed_eq, unaccepted⟩
  · rw [accepted, valid.lacks_write_iff write_eq, (Option.some_injective _).ne_iff]
  · rw [missed_eq, unaccepted, read_eq, lacks_read_iff]
    simp
  · rw [missed_eq, unaccepted, same]
    simpa using Lacks.front_le

/-- What a call reports is above the highest id before, and neither it nor what is accepted is above
the highest id after. -/
theorem reaches_of_mem_missed_moment (kept : call ≠ .reset)
    (reported : id ∈ (journal.moment call).missed) :
    (journal.perform call).1.Reaches id ∧ ¬journal.Reaches id := by
  rcases journal.moment_cases kept with ⟨_, _, write_eq, -⟩ | ⟨-, missed_eq, -⟩
  · exact reaches_of_mem_missed write_eq reported
  · rw [missed_eq] at reported
    cases reported

/-- What a call reports is not the packet that it accepts. -/
theorem accepted?_ne_of_mem_missed (kept : call ≠ .reset)
    (reported : id ∈ (journal.moment call).missed) : (journal.moment call).accepted? ≠ some id := by
  rcases journal.moment_cases kept with ⟨other, payload, write_eq, accepted⟩ | ⟨-, missed_eq, -⟩
  · obtain ⟨-, -, missed_eq⟩ := write_eq_ok write_eq
    rw [missed_eq, accept] at reported
    rw [accepted]
    rintro ⟨⟩
    split at reported
    · cases reported
    · exact Nat.lt_irrefl _ (SessionJournal.mem_revealed.mp reported).1
  · rw [missed_eq] at reported
    cases reported

theorem pairwise_missed (kept : call ≠ .reset) :
    (journal.moment call).missed.Pairwise (· < ·) := by
  rcases journal.moment_cases kept with ⟨other, payload, write_eq, -⟩ | ⟨-, missed_eq, -⟩
  · obtain ⟨-, -, missed_eq⟩ := write_eq_ok write_eq
    rw [missed_eq, accept]
    split
    · exact .nil
    · exact SessionJournal.pairwise_revealed other payload
  · rw [missed_eq]
    exact .nil

theorem reaches_perform (kept : call ≠ .reset) (reaches : journal.Reaches id) :
    (journal.perform call).1.Reaches id := by
  rcases journal.moment_cases kept with ⟨_, _, write_eq, -⟩ | ⟨read_eq | same, -⟩
  · exact reaches_of_write write_eq reaches
  · rw [read_eq]
    exact reaches_of_read reaches
  · rwa [same]

theorem reaches_of_accepted? (kept : call ≠ .reset)
    (accepted : (journal.moment call).accepted? = some id) :
    (journal.perform call).1.Reaches id := by
  rcases journal.moment_cases kept with ⟨_, _, write_eq, written⟩ | ⟨-, -, unaccepted⟩
  · obtain rfl := Option.some_inj.mp (written.symm.trans accepted)
    obtain ⟨-, performed_eq, -⟩ := write_eq_ok write_eq
    rw [performed_eq]
    refine ⟨_, rfl, ?_⟩
    rw [accept]
    split
    · exact Nat.le_refl _
    · exact Nat.le_max_right _ _
  · rw [unaccepted] at accepted
    cases accepted

/-! ## Runs -/

theorem film_concat (journal : Journal) (calls : List WindowCall) (call : WindowCall) :
    journal.film (calls ++ [call]) = journal.film calls ++ [(journal.after calls).moment call] := by
  induction calls generalizing journal with
  | nil => rfl
  | cons first calls ih =>
      rw [List.cons_append, film_cons, film_cons, ih, List.cons_append]
      rfl

theorem after_concat (journal : Journal) (calls : List WindowCall) (call : WindowCall) :
    journal.after (calls ++ [call]) = ((journal.after calls).perform call).1 := by
  rw [after, List.foldl_append]
  rfl

theorem last_film (journal : Journal) (calls : List WindowCall) :
    journal.window.last (journal.film calls) = (journal.after calls).window := by
  induction calls using List.reverseRecOn with
  | nil => rfl
  | append_singleton calls call ih =>
      rw [film_concat, Window.last, List.getLast?_concat, after_concat]
      rfl

theorem Valid.after (valid : journal.Valid) (calls : List WindowCall) :
    (journal.after calls).Valid := by
  induction calls using List.reverseRecOn with
  | nil => exact valid
  | append_singleton calls call ih =>
      rw [after_concat]
      exact ih.perform call

theorem Valid.fits_of_perform (valid : journal.Valid) {performed : Window × WindowAnswer}
    (finished : journal.window.perform call = .ok performed) : journal.Fits call := by
  cases call with
  | write id payload =>
      obtain ⟨_, write_eq, -⟩ := Overflow.bind_eq_ok_iff.mp finished
      exact valid.fits_of_write write_eq
  | read =>
      obtain ⟨_, read_eq, -⟩ := Overflow.bind_eq_ok_iff.mp finished
      exact valid.fits_of_read read_eq
  | covers id => trivial
  | isMissing id => trivial
  | reset => trivial

/-- A window that does not overflow has the record that its journal accounts for. -/
theorem Valid.eq_film_of_trace {journal : Journal} {calls : List WindowCall}
    {moments : List (Moment Window)} (valid : journal.Valid)
    (traced : journal.window.trace calls = .ok moments) : moments = journal.film calls := by
  induction calls generalizing journal moments with
  | nil =>
      cases traced
      rfl
  | cons call calls ih =>
      obtain ⟨⟨performed, answer⟩, performed_eq, rest⟩ := Overflow.bind_eq_ok_iff.mp traced
      obtain ⟨later, later_eq, done⟩ := Overflow.bind_eq_ok_iff.mp rest
      cases done
      rw [valid.window_perform (valid.fits_of_perform performed_eq)] at performed_eq
      cases performed_eq
      rw [ih (valid.perform call) later_eq]
      rfl

theorem take_film (journal : Journal) (calls : List WindowCall) (count : Nat) :
    (journal.film calls).take count = journal.film (calls.take count) := by
  induction count generalizing journal calls with
  | zero => rfl
  | succ count ih =>
      cases calls with
      | nil => rfl
      | cons call calls => rw [film_cons, List.take_succ_cons, List.take_succ_cons, film_cons, ih]

/-- What holds of the record of a session and its journal: whatever was reported or accepted is not
above the highest id, and the packets that are missing are the outstanding ones. -/
structure Reported (journal : Journal) (moments : List (Moment Window)) : Prop where
  disjoint : (moments.map Moment.missed).Pairwise List.Disjoint
  reaches_of_missed : ∀ moment ∈ moments, ∀ id ∈ moment.missed, journal.Reaches id
  reaches_of_accepted : ∀ moment ∈ moments, ∀ id, moment.accepted? = some id → journal.Reaches id
  lacks_iff : ∀ id, journal.Lacks id ↔ IsOutstanding moments id

theorem Reported.perform (reported : journal.Reported moments) (valid : journal.Valid)
    (kept : call ≠ .reset) :
    (journal.perform call).1.Reported (moments ++ [journal.moment call]) where
  disjoint := by
    rw [List.map_append, List.pairwise_append]
    refine ⟨reported.disjoint, List.pairwise_singleton _ _, ?_⟩
    rintro earlier member _ last id before now
    obtain ⟨moment, inside, rfl⟩ := List.mem_map.mp member
    obtain rfl := List.mem_singleton.mp last
    exact (reaches_of_mem_missed_moment kept now).2
      (reported.reaches_of_missed moment inside id before)
  reaches_of_missed := by
    intro moment member id missed
    rcases List.mem_append.mp member with before | last
    · exact reaches_perform kept (reported.reaches_of_missed moment before id missed)
    · obtain rfl := List.mem_singleton.mp last
      exact (reaches_of_mem_missed_moment kept missed).1
  reaches_of_accepted := by
    intro moment member id accepted
    rcases List.mem_append.mp member with before | last
    · exact reaches_perform kept (reported.reaches_of_accepted moment before id accepted)
    · obtain rfl := List.mem_singleton.mp last
      exact reaches_of_accepted? kept accepted
  lacks_iff := by
    intro id
    rw [isOutstanding_concat, ← reported.lacks_iff, valid.lacks_perform_iff kept]

theorem reported_after (valid : journal.Valid) (empty : journal.session = none)
    (kept : ∀ call ∈ calls, call ≠ .reset) :
    (journal.after calls).Reported (journal.film calls) := by
  induction calls using List.reverseRecOn with
  | nil =>
      refine ⟨.nil, by rintro _ ⟨⟩, by rintro _ ⟨⟩, fun id => iff_of_false ?_ ?_⟩
      · rintro ⟨session, found, -⟩
        exact Option.some_ne_none _ (found.symm.trans empty)
      · rintro ⟨earlier, report, later, cut, -⟩
        exact List.append_ne_nil_of_right_ne_nil _ (List.cons_ne_nil _ _) cut.symm
  | append_singleton calls call ih =>
      rw [List.forall_mem_append] at kept
      rw [film_concat, after_concat]
      exact (ih kept.1).perform (valid.after calls) (kept.2 call (List.mem_singleton_self call))

/-- The record that a journal accounts for reports each gap once. -/
theorem Valid.reportsGaps (valid : journal.Valid) (empty : journal.session = none)
    (kept : ∀ call ∈ calls, call ≠ .reset) : ReportsGaps journal.window (journal.film calls) where
  disjoint := (reported_after valid empty kept).disjoint
  ascending := by
    intro moment member
    obtain ⟨earlier, later, cut⟩ := List.append_of_mem member
    obtain ⟨past, call, future, rfl, -, rfl, -⟩ := exists_of_film_eq cut
    exact pairwise_missed (kept call (by simp))
  unaccepted := by
    intro earlier report later id cut reported moment member accepted
    obtain ⟨past, call, future, rfl, rfl, rfl, -⟩ := exists_of_film_eq cut
    have call_kept := kept call (by simp)
    rcases List.mem_append.mp member with before | last
    · have past_kept := fun call member => kept call (List.mem_append_left _ member)
      exact (reaches_of_mem_missed_moment call_kept reported).2
        ((reported_after valid empty past_kept).reaches_of_accepted moment before id accepted)
    · obtain rfl := List.mem_singleton.mp last
      exact accepted?_ne_of_mem_missed call_kept reported accepted
  inside := by
    intro report id member reported
    obtain ⟨earlier, later, cut⟩ := List.append_of_mem member
    obtain ⟨past, call, future, rfl, -, rfl, -⟩ := exists_of_film_eq cut
    have reached := valid.after past
    have performed := reached.perform call
    obtain ⟨session, found, missing⟩ :=
      (reached.lacks_perform_iff (kept call (by simp))).mpr (.inl reported)
    have after_eq : ((journal.after past).moment call).after =
        ((journal.after past).perform call).1.window := rfl
    obtain ⟨inside, aligned, -⟩ := SessionJournal.isMissing_iff.mp missing
    rw [after_eq]
    refine ⟨?_, session.window, by rw [window, found]; rfl, ?_⟩
    · rw [performed.window_covers, found, Option.any_some, SessionJournal.covers]
      exact decide_eq_true inside
    · exact (PacketId.isAligned_iff (performed.session_valid session found).length_pos).mpr aligned
  isMissing_iff := by
    intro earlier later id cut
    have earlier_eq : earlier = journal.film (calls.take earlier.length) := by
      rw [← take_film, cut, List.take_left]
    rw [earlier_eq, last_film]
    generalize earlier.length = count
    have past_kept := fun call member => kept call (List.mem_of_mem_take (i := count) member)
    rw [← (reported_after valid empty past_kept).lacks_iff, (valid.after _).window_isMissing,
      Option.any_eq_true]
    rfl

end Journal

/-- Whatever is written to a window and read from it within a session, as long as nothing overflows
each gap is reported once.  Nothing overflows as long as the accepted packets end in the range of a
word and no session is too long for a window. -/
theorem Window.reportsGaps_of_trace (size : Word) (calls : List WindowCall)
    (kept : ∀ call ∈ calls, call ≠ .reset) :
    (∀ moments, Window.trace { size := size.val } calls = .ok moments →
        ReportsGaps { size := size.val } moments) ∧
      ((∀ moment ∈ ({ size := size.val } : Journal).trace calls,
          moment.before.Admits moment.call) →
        ∃ moments, Window.trace { size := size.val } calls = .ok moments) := by
  have valid : ({ size := size.val } : Journal).Valid := .empty size.isLt
  constructor
  · intro moments traced
    rw [valid.eq_film_of_trace traced]
    exact valid.reportsGaps rfl kept
  · intro admits
    exact ⟨_, valid.window_trace (Journal.fits_of_mem_trace (by rintro _ ⟨⟩) admits)⟩

/-- A gap is filled late, and a jump leaves another one behind. -/
theorem Window.reportsGaps_of_jump :
    ∃ moments,
      Window.trace { size := 6 }
          [.write 4 [4, 5], .write 8 [8, 9], .write 6 [6, 7], .write 6 [6, 7], .write 12 [12, 13],
            .read, .read, .read, .write 18 [18, 19]] =
        .ok moments ∧
      moments.map Moment.missed = [[], [6], [], [], [10], [], [], [], [14, 16]] ∧
      ReportsGaps { size := 6 } moments := by
  have shown :
      (Window.trace { size := 6 }
          [.write 4 [4, 5], .write 8 [8, 9], .write 6 [6, 7], .write 6 [6, 7], .write 12 [12, 13],
            .read, .read, .read, .write 18 [18, 19]]).map (List.map Moment.missed) =
        .ok [[], [6], [], [], [10], [], [], [], [14, 16]] := by
    decide +kernel
  obtain ⟨moments, traced, missed_eq⟩ := Overflow.map_eq_ok_iff.mp shown
  exact ⟨moments, traced, missed_eq,
    (Window.reportsGaps_of_trace 6 _ (by decide)).1 moments traced⟩

end Playback
end AudioMulticast
