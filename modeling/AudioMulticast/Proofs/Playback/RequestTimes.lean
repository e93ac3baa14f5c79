import AudioMulticast.Proofs.Playback.GapPursuit
import AudioMulticast.Proofs.Playback.ReceptionSteps

/-!
# When gaps are requested

Within one stream the rounds of requests are determined by the record of the run alone.  A round
requests the packets that are missing and were reported or requested an interval ago, or longer ago.
What a round answers to be forgotten is not missing again, and the round after it strikes it off the
schedule for good.  Times and intervals are any numbers of milliseconds.
-/

namespace AudioMulticast
namespace Playback

/-- What the rounds of a record have found. -/
def rounds (record : List Occurrence) : List Round :=
  record.filterMap (·.answer.round?)

/-- What the last round of a record has answered to be forgotten. -/
def toForget (record : List Occurrence) : List PacketId :=
  ((rounds record).getLast?.map Round.forget).getD []

/-- What a round is given to be forgotten. -/
def ReceptionEvent.given? : ReceptionEvent → Option (List PacketId)
  | .round forgotten => some forgotten
  | _ => none

/-- Whether every round is given what the round before it has answered, and the first one what is
given here. -/
def Chained (forgotten : List PacketId) : List Occurrence → Prop
  | [] => True
  | occurrence :: later =>
      (∀ given ∈ occurrence.event.given?, given = forgotten) ∧
        Chained ((occurrence.answer.round?.map Round.forget).getD forgotten) later

instance decidableChained : (forgotten : List PacketId) → (record : List Occurrence) →
    Decidable (Chained forgotten record)
  | _, [] => inferInstanceAs (Decidable True)
  | forgotten, occurrence :: later =>
      have := decidableChained ((occurrence.answer.round?.map Round.forget).getD forgotten) later
      inferInstanceAs (Decidable (_ ∧ _))

/-- When a packet was first reported as missing. -/
def firstReport (record : List Occurrence) (id : PacketId) : Option Nat :=
  (record.find? fun occurrence => id ∈ occurrence.answer.missed).map (·.before.now)

/-- When a packet was last requested. -/
def lastRequest (record : List Occurrence) (id : PacketId) : Option Nat :=
  (record.reverse.find? fun occurrence => id ∈ occurrence.answer.requested).map (·.before.now)

/-- When a packet was first reported as missing or last requested, whichever is later. -/
def lastCall (record : List Occurrence) (id : PacketId) : Option Nat :=
  (firstReport record id).map fun reported => max reported ((lastRequest record id).getD 0)

/-- The rounds of a record request what is due, and only forget what is settled. -/
structure RequestsInTime (interval : Nat) (record : List Occurrence) : Prop where
  /-- A packet that is missing has been reported. -/
  reported :
    ∀ {earlier occurrence later id}, record = earlier ++ occurrence :: later →
      occurrence.before.reception.window.isMissing id → ∃ last, lastCall earlier id = some last
  /-- A round requests the missing packets whose last call is at least an interval ago. -/
  mem_request_iff :
    ∀ {earlier occurrence later round id}, record = earlier ++ occurrence :: later →
      occurrence.answer = .round round →
        (id ∈ round.request ↔ occurrence.before.reception.window.isMissing id ∧
          ∃ last, lastCall earlier id = some last ∧ last + interval ≤ occurrence.before.now)
  /-- A round lists no packet twice, and lower ids first. -/
  ascending :
    ∀ {earlier occurrence later round}, record = earlier ++ occurrence :: later →
      occurrence.answer = .round round →
        round.request.Pairwise (· < ·) ∧ round.forget.Pairwise (· < ·)
  /-- A packet that a round answers to be forgotten is not missing, and is not missing again. -/
  settled :
    ∀ {earlier occurrence later round id}, record = earlier ++ occurrence :: later →
      occurrence.answer = .round round → id ∈ round.forget →
        ¬occurrence.before.reception.window.isMissing id ∧
          ∀ next ∈ occurrence :: later, ¬next.after.reception.window.isMissing id
  /-- From the next round on, the packet is not in the schedule. -/
  struck :
    ∀ {earlier occurrence between next later round id},
      record = earlier ++ occurrence :: (between ++ next :: later) →
      occurrence.answer = .round round → id ∈ round.forget → next.answer.round?.isSome →
        ∀ last ∈ next :: later, id ∉ last.after.reception.gaps.dueTimes

variable {record earlier later : List Occurrence} {occurrence : Occurrence} {id : PacketId}

/-! ## Records that grow -/

theorem rounds_append (earlier later : List Occurrence) :
    rounds (earlier ++ later) = rounds earlier ++ rounds later :=
  List.filterMap_append

theorem rounds_of_none (quiet : occurrence.answer.round? = none) : rounds [occurrence] = [] := by
  simp [rounds, quiet]

theorem rounds_of_some {round : Round} (found : occurrence.answer.round? = some round) :
    rounds [occurrence] = [round] := by
  simp [rounds, found]

theorem mem_rounds {round : Round} (member : occurrence ∈ record)
    (answer_eq : occurrence.answer = .round round) : round ∈ rounds record :=
  List.mem_filterMap.mpr ⟨occurrence, member, by rw [answer_eq]; rfl⟩

/-- A round that is followed by another one is not the last. -/
theorem mem_dropLast_rounds {round : Round} (member : occurrence ∈ earlier)
    (answer_eq : occurrence.answer = .round round)
    (followed : ∃ next ∈ later, next.answer.round?.isSome) :
    round ∈ (rounds (earlier ++ later)).dropLast := by
  obtain ⟨next, next_mem, isRound⟩ := followed
  obtain ⟨second, second_eq⟩ := Option.isSome_iff_exists.mp isRound
  have found : second ∈ rounds later := List.mem_filterMap.mpr ⟨next, next_mem, second_eq⟩
  rw [rounds_append, List.dropLast_append_of_ne_nil (List.ne_nil_of_mem found)]
  exact List.mem_append_left _ (mem_rounds member answer_eq)

/-- A record is cut at one of its moments, at the first one or later. -/
theorem exists_cut {next : Occurrence} (member : next ∈ occurrence :: later) :
    ∃ between rest, occurrence :: later = between ++ next :: rest ∧
      occurrence ∈ between ++ [next] := by
  rcases List.mem_cons.mp member with rfl | inside
  · exact ⟨[], later, rfl, List.mem_singleton_self next⟩
  · obtain ⟨between, rest, rfl⟩ := List.append_of_mem inside
    exact ⟨occurrence :: between, rest, rfl, List.mem_cons_self⟩

theorem toForget_append (record : List Occurrence) (occurrence : Occurrence) :
    toForget (record ++ [occurrence]) =
      (occurrence.answer.round?.map Round.forget).getD (toForget record) := by
  cases found : occurrence.answer.round? with
  | none => simp [toForget, rounds_append, rounds_of_none found]
  | some round => simp [toForget, rounds_append, rounds_of_some found]

/-- What is to be forgotten was answered by a round. -/
theorem exists_round_of_mem_toForget (member : id ∈ toForget record) :
    ∃ round ∈ rounds record, id ∈ round.forget := by
  rw [toForget] at member
  cases last_eq : (rounds record).getLast? with
  | none => simp [last_eq] at member
  | some round =>
      simp only [last_eq, Option.map_some, Option.getD_some] at member
      exact ⟨round, List.mem_of_getLast? last_eq, member⟩

/-- A packet that has been reported is not called again until it is requested. -/
theorem lastCall_append {last : Nat} (found : lastCall record id = some last)
    (unrequested : id ∉ occurrence.answer.requested) :
    lastCall (record ++ [occurrence]) id = some last := by
  obtain ⟨reported, report_eq, rfl⟩ := Option.map_eq_some_iff.mp found
  obtain ⟨first, find_eq, rfl⟩ := Option.map_eq_some_iff.mp report_eq
  simp [lastCall, firstReport, lastRequest, find_eq, unrequested]

theorem lastCall_append_of_requested {last : Nat} (found : lastCall record id = some last)
    (requested : id ∈ occurrence.answer.requested) (last_le : last ≤ occurrence.before.now) :
    lastCall (record ++ [occurrence]) id = some occurrence.before.now := by
  obtain ⟨reported, report_eq, rfl⟩ := Option.map_eq_some_iff.mp found
  obtain ⟨first, find_eq, rfl⟩ := Option.map_eq_some_iff.mp report_eq
  have first_le : first.before.now ≤ occurrence.before.now := (le_max_left _ _).trans last_le
  simp [lastCall, firstReport, lastRequest, find_eq, requested, first_le]

theorem lastCall_append_of_missed
    (unrecorded : ∀ former ∈ record,
      id ∉ former.answer.missed ∧ id ∉ former.answer.requested)
    (missed : id ∈ occurrence.answer.missed) (unrequested : id ∉ occurrence.answer.requested) :
    lastCall (record ++ [occurrence]) id = some occurrence.before.now := by
  have unreported : (record.find? fun former => id ∈ former.answer.missed) = none :=
    List.find?_eq_none.mpr fun former member => by simpa using (unrecorded former member).1
  have uncalled :
      (record.reverse.find? fun former => id ∈ former.answer.requested) = none :=
    List.find?_eq_none.mpr fun former member => by
      simpa using (unrecorded former (List.mem_reverse.mp member)).2
  simp [lastCall, firstReport, lastRequest, unreported, uncalled, missed, unrequested]

/-! ## What one event preserves -/

/-- What holds after a record.  A missing packet is in the schedule with the time at which it is to
be requested, and what rounds have answered to be forgotten is not missing. -/
structure Punctual (interval : Nat) (record : List Occurrence) (timed : TimedReception)
    (journal : Journal) : Prop where
  follows : timed.reception.Follows journal
  interval_eq : timed.reception.gaps.interval = interval
  exists_lastCall : ∀ id, journal.Lacks id →
    ∃ last, lastCall record id = some last ∧ last ≤ timed.now ∧
      timed.reception.gaps.dueTime? id = some (last + interval)
  reaches_scheduled : ∀ id, (timed.reception.gaps.dueTime? id).isSome → journal.Reaches id
  reaches_recorded : ∀ occurrence ∈ record, ∀ id,
    id ∈ occurrence.answer.missed ∨ id ∈ occurrence.answer.requested → journal.Reaches id
  settled : ∀ round ∈ rounds record, ∀ id ∈ round.forget, journal.Reaches id ∧ ¬journal.Lacks id
  struck : ∀ round ∈ (rounds record).dropLast, ∀ id ∈ round.forget,
    timed.reception.gaps.dueTime? id = none

namespace Punctual

variable {interval : Nat} {timed after : TimedReception} {journal result : Journal}
  {event : ReceptionEvent} {answer : ReceptionAnswer}

theorem new (size : Word) (interval : Nat) :
    Punctual interval [] (.new size.val interval) { size := size.val } where
  follows := Reception.follows_new size interval
  interval_eq := rfl
  exists_lastCall := by
    rintro id ⟨_, found, -⟩
    cases found
  reaches_scheduled := by
    intro id scheduled
    rw [TimedReception.new, Reception.new, GapSchedule.dueTime?,
      Std.TreeMap.getElem?_emptyc] at scheduled
    cases scheduled
  reaches_recorded := by simp
  settled := by simp [rounds]
  struck := by simp [rounds]

theorem isMissing_iff (punctual : Punctual interval record timed journal) :
    timed.reception.window.isMissing id ↔ journal.Lacks id :=
  punctual.follows.isMissing_iff

/-- What the last round has answered to be forgotten is not missing. -/
theorem not_lacks_of_mem_toForget (punctual : Punctual interval record timed journal)
    (member : id ∈ toForget record) : ¬journal.Lacks id := by
  obtain ⟨round, found, forgotten⟩ := exists_round_of_mem_toForget member
  exact (punctual.settled round found id forgotten).2

/-- What any round has answered to be forgotten is struck off before the next round, or by it. -/
theorem absent_or_told (punctual : Punctual interval record timed journal) {round : Round}
    (found : round ∈ rounds record) (forgotten : id ∈ round.forget) :
    timed.reception.gaps.dueTime? id = none ∨ id ∈ toForget record := by
  have nonempty := List.ne_nil_of_mem found
  rw [← List.dropLast_append_getLast nonempty] at found
  rcases List.mem_append.mp found with former | last
  · exact .inl (punctual.struck round former id forgotten)
  · rw [List.mem_singleton.mp last] at forgotten
    rw [toForget, List.getLast?_eq_some_getLast nonempty, Option.map_some, Option.getD_some]
    exact .inr forgotten

theorem write (punctual : Punctual interval record timed journal) {packet : DataPacket}
    {missed : List PacketId} (followed : after.reception.Follows result)
    (write_eq : journal.write packet.id packet.payload = .ok (result, missed))
    (gaps_eq : after.reception.gaps = timed.reception.gaps.add missed timed.now)
    (now_eq : after.now = timed.now) :
    Punctual interval (record ++ [⟨timed, event, .revealed missed, after⟩]) after result := by
  have fresh : ∀ id ∈ missed, ¬journal.Reaches id := fun id member =>
    (Journal.reaches_of_mem_missed write_eq member).2
  refine ⟨followed, ?_, ?_, ?_, ?_, ?_, ?_⟩
  · rw [gaps_eq]
    exact punctual.interval_eq
  · intro id lacks
    rw [gaps_eq, GapSchedule.dueTime?_add, punctual.interval_eq, now_eq]
    by_cases revealed : id ∈ missed
    · have unscheduled : timed.reception.gaps.dueTime? id = none :=
        Option.not_isSome_iff_eq_none.mp fun scheduled =>
          fresh id revealed (punctual.reaches_scheduled id scheduled)
      have unrecorded : ∀ former ∈ record,
          id ∉ former.answer.missed ∧ id ∉ former.answer.requested := fun former member =>
        not_or.mp fun recorded =>
          fresh id revealed (punctual.reaches_recorded former member id recorded)
      refine ⟨timed.now, ?_, Nat.le_refl _, by simp [unscheduled, revealed]⟩
      exact lastCall_append_of_missed unrecorded revealed List.not_mem_nil
    · have before := (Journal.lacks_of_write write_eq lacks).resolve_right revealed
      obtain ⟨last, found, last_le, due_eq⟩ := punctual.exists_lastCall id before
      exact ⟨last, lastCall_append found List.not_mem_nil, last_le, by simp [due_eq]⟩
  · intro id scheduled
    rw [gaps_eq, GapSchedule.isSome_dueTime?_add] at scheduled
    rcases scheduled with before | revealed
    · exact Journal.reaches_of_write write_eq (punctual.reaches_scheduled id before)
    · exact (Journal.reaches_of_mem_missed write_eq revealed).1
  · intro occurrence member id recorded
    rcases List.mem_append.mp member with former | new
    · exact Journal.reaches_of_write write_eq
        (punctual.reaches_recorded occurrence former id recorded)
    · obtain rfl := List.mem_singleton.mp new
      rcases recorded with revealed | requested
      · exact (Journal.reaches_of_mem_missed write_eq revealed).1
      · cases requested
  · intro round found id forgotten
    rw [rounds_append, rounds_of_none rfl, List.append_nil] at found
    obtain ⟨reaches, settled⟩ := punctual.settled round found id forgotten
    refine ⟨Journal.reaches_of_write write_eq reaches, fun lacks => ?_⟩
    rcases Journal.lacks_of_write write_eq lacks with before | revealed
    · exact settled before
    · exact fresh id revealed reaches
  · intro round found id forgotten
    rw [rounds_append, rounds_of_none rfl, List.append_nil] at found
    have unrevealed : id ∉ missed := fun revealed =>
      fresh id revealed
        (punctual.settled round (List.dropLast_subset _ found) id forgotten).1
    rw [gaps_eq, GapSchedule.dueTime?_add, punctual.struck round found id forgotten]
    simp [unrevealed]

/-- An event that changes neither the packets that are missing nor the schedule. -/
theorem keep (punctual : Punctual interval record timed journal)
    (followed : after.reception.Follows result)
    (gaps_eq : after.reception.gaps = timed.reception.gaps) (now_le : timed.now ≤ after.now)
    (missed_eq : answer.missed = []) (round_eq : answer.round? = none)
    (lacks_of : ∀ id, result.Lacks id → journal.Lacks id)
    (reaches_of : ∀ id, journal.Reaches id → result.Reaches id) :
    Punctual interval (record ++ [⟨timed, event, answer, after⟩]) after result := by
  have requested_eq := ReceptionAnswer.requested_eq_nil round_eq
  have rounds_eq : rounds (record ++ [⟨timed, event, answer, after⟩]) = rounds record := by
    rw [rounds_append, rounds_of_none round_eq, List.append_nil]
  refine ⟨followed, ?_, ?_, ?_, ?_, ?_, ?_⟩
  · rw [gaps_eq]
    exact punctual.interval_eq
  · intro id lacks
    obtain ⟨last, found, last_le, due_eq⟩ := punctual.exists_lastCall id (lacks_of id lacks)
    rw [gaps_eq]
    exact ⟨last, lastCall_append found (by simp [requested_eq]), last_le.trans now_le, due_eq⟩
  · rw [gaps_eq]
    exact fun id scheduled => reaches_of id (punctual.reaches_scheduled id scheduled)
  · intro occurrence member id recorded
    rcases List.mem_append.mp member with former | new
    · exact reaches_of id (punctual.reaches_recorded occurrence former id recorded)
    · obtain rfl := List.mem_singleton.mp new
      simp [missed_eq, requested_eq] at recorded
  · rw [rounds_eq]
    intro round found id forgotten
    obtain ⟨reaches, settled⟩ := punctual.settled round found id forgotten
    exact ⟨reaches_of id reaches, fun lacks => settled (lacks_of id lacks)⟩
  · rw [rounds_eq, gaps_eq]
    exact punctual.struck

theorem round (punctual : Punctual interval record timed journal) {round : Round}
    (followed : after.reception.Follows journal)
    (gaps_eq :
      after.reception.gaps = (timed.reception.gaps.next (toForget record) timed.now).1)
    (request_eq : round.request =
      (timed.reception.gaps.next (toForget record) timed.now).2.filter
        timed.reception.window.isMissing)
    (forget_eq : round.forget =
      (timed.reception.gaps.next (toForget record) timed.now).2.filter
        fun id => !timed.reception.window.isMissing id)
    (now_eq : after.now = timed.now) :
    Punctual interval (record ++ [⟨timed, event, .round round, after⟩]) after journal := by
  have rounds_eq :
      rounds (record ++ [⟨timed, event, .round round, after⟩]) = rounds record ++ [round] := by
    rw [rounds_append, rounds_of_some rfl]
  have scheduled_of : ∀ id, id ∈ (timed.reception.gaps.next (toForget record) timed.now).2 →
      journal.Reaches id := by
    intro id answered
    obtain ⟨-, time, found, -⟩ := GapSchedule.mem_next.mp answered
    exact punctual.reaches_scheduled id (by rw [found]; rfl)
  refine ⟨followed, ?_, ?_, ?_, ?_, ?_, ?_⟩
  · rw [gaps_eq]
    exact punctual.interval_eq
  · intro id lacks
    obtain ⟨last, found, last_le, due_eq⟩ := punctual.exists_lastCall id lacks
    have missing := punctual.isMissing_iff.mpr lacks
    rw [gaps_eq, GapSchedule.dueTime?_next, punctual.interval_eq, now_eq]
    by_cases answered : id ∈ (timed.reception.gaps.next (toForget record) timed.now).2
    · have requested : id ∈ round.request := by
        rw [request_eq]
        exact List.mem_filter.mpr ⟨answered, missing⟩
      refine ⟨timed.now, ?_, Nat.le_refl _, if_pos answered⟩
      exact lastCall_append_of_requested found requested last_le
    · have unrequested : id ∉ round.request := by
        rw [request_eq]
        exact fun member => answered (List.mem_filter.mp member).1
      have kept : id ∉ toForget record := fun member =>
        punctual.not_lacks_of_mem_toForget member lacks
      refine ⟨last, lastCall_append found unrequested, last_le, ?_⟩
      rw [if_neg answered, if_neg kept, due_eq]
  · intro id scheduled
    rw [gaps_eq, GapSchedule.isSome_dueTime?_next] at scheduled
    exact punctual.reaches_scheduled id scheduled.1
  · intro occurrence member id recorded
    rcases List.mem_append.mp member with former | new
    · exact punctual.reaches_recorded occurrence former id recorded
    · obtain rfl := List.mem_singleton.mp new
      rcases recorded with missed | requested
      · cases missed
      · have requested : id ∈ round.request := requested
        rw [request_eq] at requested
        exact scheduled_of id (List.mem_filter.mp requested).1
  · rw [rounds_eq]
    intro other found id forgotten
    rcases List.mem_append.mp found with former | new
    · exact punctual.settled other former id forgotten
    · obtain rfl := List.mem_singleton.mp new
      rw [forget_eq, List.mem_filter, Bool.not_eq_true', Bool.eq_false_iff] at forgotten
      refine ⟨scheduled_of id forgotten.1, fun lacks => ?_⟩
      exact forgotten.2 (punctual.isMissing_iff.mpr lacks)
  · rw [rounds_eq, List.dropLast_concat]
    intro other found id forgotten
    rw [gaps_eq]
    exact GapSchedule.dueTime?_next_eq_none (punctual.absent_or_told found forgotten)

theorem exists_of_perform (punctual : Punctual interval record timed journal)
    (performed : timed.perform event = .ok (after, answer)) (kept : event ≠ .reset)
    (given : ∀ forgotten ∈ event.given?, forgotten = toForget record) :
    ∃ result, timed.Effect after journal event answer result ∧
      Punctual interval (record ++ [⟨timed, event, answer, after⟩]) after result := by
  obtain ⟨result, followed, effect⟩ := TimedReception.exists_effect punctual.follows performed
  refine ⟨result, effect, ?_⟩
  cases effect with
  | write arrives write_eq gaps_eq now_eq => exact punctual.write followed write_eq gaps_eq now_eq
  | play gaps_eq now_eq =>
      exact punctual.keep followed gaps_eq now_eq.ge rfl rfl (fun _ => Journal.lacks_of_read)
        fun _ => Journal.reaches_of_read
  | @round forgotten found gaps_eq request_eq forget_eq now_eq =>
      obtain rfl := given forgotten rfl
      exact punctual.round followed gaps_eq request_eq forget_eq now_eq
  | reset => exact absurd rfl kept
  | keep gaps_eq now_le missed_eq round_eq =>
      exact punctual.keep followed gaps_eq now_le missed_eq round_eq (fun _ => id) fun _ => id

/-- A round divides what is due after the last round's answer has been struck off. -/
theorem round_eq {round : Round} (effect : timed.Effect after journal event (.round round) result)
    (given : ∀ forgotten ∈ event.given?, forgotten = toForget record) :
    round.request = (timed.reception.gaps.next (toForget record) timed.now).2.filter
        timed.reception.window.isMissing ∧
      round.forget = (timed.reception.gaps.next (toForget record) timed.now).2.filter
        fun id => !timed.reception.window.isMissing id := by
  cases effect with
  | @round forgotten _ gaps_eq request_eq forget_eq now_eq =>
      obtain rfl := given forgotten rfl
      exact ⟨request_eq, forget_eq⟩
  | keep gaps_eq now_le missed_eq round_eq => cases round_eq

theorem mem_request_iff (punctual : Punctual interval record timed journal) {round : Round}
    (request_eq : round.request =
      (timed.reception.gaps.next (toForget record) timed.now).2.filter
        timed.reception.window.isMissing) :
    id ∈ round.request ↔ timed.reception.window.isMissing id ∧
      ∃ last, lastCall record id = some last ∧ last + interval ≤ timed.now := by
  rw [request_eq, List.mem_filter, and_comm, GapSchedule.mem_next]
  refine and_congr_right fun missing => ?_
  have lacks := punctual.isMissing_iff.mp missing
  have kept : id ∉ toForget record := fun member =>
    punctual.not_lacks_of_mem_toForget member lacks
  obtain ⟨last, found, -, due_eq⟩ := punctual.exists_lastCall id lacks
  simp [kept, found, due_eq]

end Punctual

/-! ## Whole runs -/

/-- Wherever a record is cut, it has been kept in time so far, and the next event keeps it so. -/
theorem Punctual.exists_of_trace {interval : Nat} {past record : List Occurrence}
    {timed : TimedReception} {journal : Journal} {events : List ReceptionEvent}
    (punctual : Punctual interval past timed journal) (traced : timed.trace events = .ok record)
    (kept : .reset ∉ events) (chained : Chained (toForget past) record)
    (cut : record = earlier ++ occurrence :: later) :
    ∃ journal result, Punctual interval (past ++ earlier) occurrence.before journal ∧
      occurrence.before.Effect occurrence.after journal occurrence.event occurrence.answer result ∧
      (∀ given ∈ occurrence.event.given?, given = toForget (past ++ earlier)) ∧
      Punctual interval (past ++ earlier ++ [occurrence]) occurrence.after result := by
  induction events generalizing past timed journal record earlier with
  | nil =>
      cases traced
      simp at cut
  | cons event events ih =>
      obtain ⟨after, answer, rest, performed, rest_eq, rfl⟩ :=
        TimedReception.trace_cons_eq_ok_iff.mp traced
      obtain ⟨given, chained⟩ := chained
      rw [List.mem_cons, not_or] at kept
      obtain ⟨result, effect, punctual'⟩ :=
        punctual.exists_of_perform performed (Ne.symm kept.1) given
      cases earlier with
      | nil =>
          cases cut
          rw [List.append_nil]
          exact ⟨journal, result, punctual, effect, given, punctual'⟩
      | cons first earlier =>
          cases cut
          rw [← toForget_append past ⟨timed, event, answer, after⟩] at chained
          have split := ih punctual' rest_eq kept.2 chained rfl
          simpa only [List.append_assoc, List.singleton_append] using split

theorem exists_punctual_of_cut {size : Word} {interval : Nat} {events : List ReceptionEvent}
    (traced : (TimedReception.new size.val interval).trace events = .ok record)
    (kept : .reset ∉ events) (chained : Chained [] record)
    (cut : record = earlier ++ occurrence :: later) :
    ∃ journal result, Punctual interval earlier occurrence.before journal ∧
      occurrence.before.Effect occurrence.after journal occurrence.event occurrence.answer result ∧
      (∀ given ∈ occurrence.event.given?, given = toForget earlier) ∧
      Punctual interval (earlier ++ [occurrence]) occurrence.after result :=
  (Punctual.new size interval).exists_of_trace traced kept chained cut

/-- In a run without a reset, in which every round is given what the round before it has answered,
the requests are made in time. -/
theorem requestsInTime_of_trace {size : Word} {interval : Nat} {events : List ReceptionEvent}
    (traced : (TimedReception.new size.val interval).trace events = .ok record)
    (kept : .reset ∉ events) (chained : Chained [] record) : RequestsInTime interval record where
  reported := by
    intro earlier occurrence later id cut missing
    obtain ⟨journal, -, punctual, -⟩ := exists_punctual_of_cut traced kept chained cut
    obtain ⟨last, found, -⟩ := punctual.exists_lastCall id (punctual.isMissing_iff.mp missing)
    exact ⟨last, found⟩
  mem_request_iff := by
    intro earlier occurrence later round id cut answer_eq
    obtain ⟨journal, result, punctual, effect, given, -⟩ :=
      exists_punctual_of_cut traced kept chained cut
    rw [answer_eq] at effect
    exact punctual.mem_request_iff (Punctual.round_eq effect given).1
  ascending := by
    intro earlier occurrence later round cut answer_eq
    obtain ⟨journal, result, punctual, effect, given, -⟩ :=
      exists_punctual_of_cut traced kept chained cut
    rw [answer_eq] at effect
    obtain ⟨request_eq, forget_eq⟩ := Punctual.round_eq effect given
    rw [request_eq, forget_eq]
    exact ⟨GapSchedule.pairwise_due.filter _, GapSchedule.pairwise_due.filter _⟩
  settled := by
    intro earlier occurrence later round id cut answer_eq forgotten
    refine ⟨?_, ?_⟩
    · obtain ⟨journal, result, punctual, effect, given, -⟩ :=
        exists_punctual_of_cut traced kept chained cut
      rw [answer_eq] at effect
      rw [(Punctual.round_eq effect given).2, List.mem_filter] at forgotten
      simpa using forgotten.2
    · intro next member
      obtain ⟨between, rest, later_eq, occurred⟩ := exists_cut member
      rw [later_eq, ← List.append_assoc] at cut
      obtain ⟨-, result, -, -, -, punctual⟩ := exists_punctual_of_cut traced kept chained cut
      have found : round ∈ rounds (earlier ++ between ++ [next]) := by
        rw [List.append_assoc]
        exact mem_rounds (List.mem_append_right _ occurred) answer_eq
      rw [punctual.isMissing_iff]
      exact (punctual.settled round found id forgotten).2
  struck := by
    intro earlier occurrence between next later round id cut answer_eq forgotten isRound last member
    obtain ⟨through, rest, later_eq, occurred⟩ := exists_cut member
    have cut_last : record = earlier ++ occurrence :: (between ++ through) ++ last :: rest := by
      simp [cut, later_eq]
    obtain ⟨-, result, -, -, -, punctual⟩ := exists_punctual_of_cut traced kept chained cut_last
    have split : earlier ++ occurrence :: (between ++ through) ++ [last] =
        (earlier ++ [occurrence]) ++ (between ++ (through ++ [last])) := by
      simp
    have found : round ∈
        (rounds (earlier ++ occurrence :: (between ++ through) ++ [last])).dropLast := by
      rw [split]
      exact mem_dropLast_rounds (List.mem_append_right _ (List.mem_singleton_self occurrence))
        answer_eq ⟨next, List.mem_append_right _ occurred, isRound⟩
    rw [GapSchedule.mem_dueTimes_iff, punctual.struck round found id forgotten]
    exact Bool.false_ne_true

/-- A gap is requested once, filled before the next request, and struck off the schedule. -/
theorem requestsInTime_of_filled_gap :
    ∃ record,
      (TimedReception.new 20 250).trace
          [.receive ⟨0, 0, [0, 1]⟩, .receive ⟨0, 4, [4, 5]⟩, .wait 250, .round [],
            .receive ⟨0, 2, [2, 3]⟩, .wait 250, .round [], .round [2]] = .ok record ∧
        rounds record = [⟨[2], []⟩, ⟨[], [2]⟩, ⟨[], []⟩] ∧ RequestsInTime 250 record := by
  have shown :
      ((TimedReception.new 20 250).trace
          [.receive ⟨0, 0, [0, 1]⟩, .receive ⟨0, 4, [4, 5]⟩, .wait 250, .round [],
            .receive ⟨0, 2, [2, 3]⟩, .wait 250, .round [], .round [2]]).map
          (fun record => (decide (Chained [] record), rounds record)) =
        .ok (true, [⟨[2], []⟩, ⟨[], [2]⟩, ⟨[], []⟩]) := by
    decide +kernel
  obtain ⟨record, traced, view_eq⟩ := Overflow.map_eq_ok_iff.mp shown
  obtain ⟨chained, rounds_eq⟩ := Prod.mk.inj view_eq
  have kept : ReceptionEvent.reset ∉
      [.receive ⟨0, 0, [0, 1]⟩, .receive ⟨0, 4, [4, 5]⟩, .wait 250, .round [],
        .receive ⟨0, 2, [2, 3]⟩, .wait 250, .round [], .round [2]] := by
    decide
  exact ⟨record, traced, rounds_eq,
    @requestsInTime_of_trace record 20 250 _ traced kept (of_decide_eq_true chained)⟩

end Playback
end AudioMulticast
