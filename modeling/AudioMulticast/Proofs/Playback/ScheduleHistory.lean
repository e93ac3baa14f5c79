import AudioMulticast.Proofs.Playback.GapTimes
import Mathlib.Data.List.DropRight
import Mathlib.Data.Set.Card

/-!
# When a schedule answers a packet

Packets are added to a schedule, rounds remove some of them and answer those that are due, and all
may be removed at once, in any order, while time passes.  What a round answers follows from the calls
so far: a packet starts to wait when it is added for the first time since it was removed last, and
again whenever it is answered, and it is due once it has waited for an interval.  Times and
intervals are any numbers of milliseconds.
-/

namespace AudioMulticast
namespace Playback

/-- What can be asked of a schedule, and the time that passes in between. -/
inductive ScheduleCall where
  /-- Add packets that turned out to be missing. -/
  | add (ids : List PacketId)
  /-- Remove some packets, and answer those that are due. -/
  | next (forgotten : List PacketId)
  /-- Remove all packets. -/
  | clear
  /-- Time passes. -/
  | wait (duration : Nat)
  deriving DecidableEq

namespace ScheduleCall

/-- The packets that a call adds. -/
def added : ScheduleCall → List PacketId
  | .add ids => ids
  | _ => []

/-- Whether a call removes a packet. -/
def removes (id : PacketId) : ScheduleCall → Bool
  | .next forgotten => forgotten.contains id
  | .clear => true
  | _ => false

end ScheduleCall

/-- A schedule at a time. -/
structure TimedSchedule where
  schedule : GapSchedule
  now : Nat

/-- One call of a run. -/
structure ScheduleMoment where
  /-- State before the call. -/
  before : TimedSchedule
  /-- The call. -/
  call : ScheduleCall
  /-- The packets that are answered. -/
  answer : List PacketId
  /-- State after the call. -/
  after : TimedSchedule

/-- What has happened since a packet was removed last. -/
def sinceRemoval (past : List ScheduleMoment) (id : PacketId) : List ScheduleMoment :=
  past.rtakeWhile fun moment => !moment.call.removes id

/-- When a packet was first added since it was removed last. -/
def firstAdded (past : List ScheduleMoment) (id : PacketId) : Option Nat :=
  ((sinceRemoval past id).find? fun moment => moment.call.added.contains id).map (·.before.now)

/-- When a packet was last answered since it was removed last. -/
def lastAnswered (past : List ScheduleMoment) (id : PacketId) : Option Nat :=
  ((sinceRemoval past id).reverse.find? fun moment => moment.answer.contains id).map (·.before.now)

/-- Since when a packet waits for its turn: since it was added or answered, whichever is later. -/
def waitsSince (past : List ScheduleMoment) (id : PacketId) : Option Nat :=
  (firstAdded past id).map fun added => max added ((lastAnswered past id).getD 0)

namespace TimedSchedule

/-- A schedule without entries. -/
def new (interval start : Nat) : TimedSchedule :=
  { schedule := { interval }, now := start }

/-- Carry out a call. -/
def perform (timed : TimedSchedule) : ScheduleCall → TimedSchedule × List PacketId
  | .add ids => ({ timed with schedule := timed.schedule.add ids timed.now }, [])
  | .next forgotten =>
      let (schedule, due) := timed.schedule.next forgotten timed.now
      ({ timed with schedule }, due)
  | .clear => ({ timed with schedule := timed.schedule.clear }, [])
  | .wait duration => ({ timed with now := timed.now + duration }, [])

/-- What is recorded of a call. -/
def moment (timed : TimedSchedule) (call : ScheduleCall) : ScheduleMoment :=
  { before := timed
    call
    answer := (timed.perform call).2
    after := (timed.perform call).1 }

/-- The record of some calls. -/
def trace : TimedSchedule → List ScheduleCall → List ScheduleMoment
  | _, [] => []
  | timed, call :: calls => timed.moment call :: (timed.perform call).1.trace calls

end TimedSchedule

/-- A record in which every packet is answered when it has waited for an interval. -/
structure AnswersInTime (interval : Nat) (record : List ScheduleMoment) : Prop where
  /-- A round answers the packets that it does not remove and that have waited for an interval. -/
  mem_answer_iff :
    ∀ {earlier moment later id}, record = earlier ++ moment :: later →
      (id ∈ moment.answer ↔ ∃ forgotten, moment.call = .next forgotten ∧ id ∉ forgotten ∧
        ∃ since, waitsSince earlier id = some since ∧ since + interval ≤ moment.before.now)
  /-- A round lists no packet twice, and lower ids first. -/
  ascending : ∀ moment ∈ record, moment.answer.Pairwise (· < ·)
  /-- A packet that is added, and was not in the schedule, is not answered for an interval. -/
  delayed :
    ∀ {earlier first between second later id},
      record = earlier ++ first :: (between ++ second :: later) →
      firstAdded earlier id = none → id ∈ first.call.added → id ∈ second.answer →
      (∀ moment ∈ between, moment.call.removes id = false) →
        first.before.now + interval ≤ second.before.now
  /-- A packet that is answered is not answered again for an interval, unless it is removed. -/
  spaced :
    ∀ {earlier first between second later id},
      record = earlier ++ first :: (between ++ second :: later) →
      id ∈ first.answer → id ∈ second.answer →
      (∀ moment ∈ between, moment.call.removes id = false) →
        first.before.now + interval ≤ second.before.now
  /-- Adding packets that are in the schedule has no effect, on them or on others. -/
  unmoved :
    ∀ {earlier moment later ids}, record = earlier ++ moment :: later → moment.call = .add ids →
      moment.after.schedule = moment.before.schedule.add
        (ids.filter fun id => (firstAdded earlier id).isNone) moment.before.now
  /-- The schedule holds the packets that were added since they were removed last. -/
  size_eq :
    ∀ {earlier moment later}, record = earlier ++ moment :: later →
      moment.after.schedule.size =
        {id | (firstAdded (earlier ++ [moment]) id).isSome}.ncard

/-! ## Packets that are added again -/

theorem insertIfNew_of_mem {dueTimes : Std.TreeMap PacketId Nat} {id : PacketId}
    (present : id ∈ dueTimes) (time : Nat) : dueTimes.insertIfNew id time = dueTimes := by
  have contained : dueTimes.inner.inner.contains id = true := present
  unfold Std.TreeMap.insertIfNew Std.DTreeMap.insertIfNew Std.DTreeMap.Internal.Impl.insertIfNew
  simp only [contained, if_true]

/-- Packets that are in the schedule may be left out when packets are added. -/
theorem GapSchedule.add_filter {schedule : GapSchedule} {ids : List PacketId} (now : Nat)
    {isNew : PacketId → Bool}
    (present : ∀ id ∈ ids, isNew id = false → id ∈ schedule.dueTimes) :
    schedule.add (ids.filter isNew) now = schedule.add ids now := by
  obtain ⟨interval, dueTimes⟩ := schedule
  simp only [add, mk.injEq, true_and]
  induction ids generalizing dueTimes with
  | nil => rfl
  | cons first ids ih =>
      obtain ⟨first_present, present⟩ := List.forall_mem_cons.mp present
      cases isNew_eq : isNew first with
      | true =>
          rw [List.filter_cons_of_pos isNew_eq, List.foldl_cons, List.foldl_cons]
          refine ih _ fun id member known => ?_
          exact Std.TreeMap.mem_insertIfNew.mpr (.inr (present id member known))
      | false =>
          rw [List.filter_cons_of_neg (by simp [isNew_eq]), List.foldl_cons,
            insertIfNew_of_mem (first_present isNew_eq)]
          exact ih dueTimes present

/-! ## Single calls -/

variable {interval : Nat} {past : List ScheduleMoment} {moment : ScheduleMoment} {id : PacketId}

theorem firstAdded_concat :
    firstAdded (past ++ [moment]) id =
      if moment.call.removes id then none
      else (firstAdded past id).or
        (if id ∈ moment.call.added then some moment.before.now else none) := by
  rw [firstAdded, sinceRemoval, List.rtakeWhile_concat]
  cases moment.call.removes id with
  | true => rfl
  | false =>
      simp only [Bool.not_false, if_true, Bool.false_eq_true, if_false, List.find?_append,
        Option.map_or]
      by_cases added : id ∈ moment.call.added
      · simp [added, firstAdded, sinceRemoval]
      · simp [added, firstAdded, sinceRemoval]

theorem lastAnswered_concat :
    lastAnswered (past ++ [moment]) id =
      if moment.call.removes id then none
      else if id ∈ moment.answer then some moment.before.now
      else lastAnswered past id := by
  rw [lastAnswered, sinceRemoval, List.rtakeWhile_concat]
  cases moment.call.removes id with
  | true => rfl
  | false =>
      simp only [Bool.not_false, if_true, Bool.false_eq_true, if_false, List.reverse_concat,
        List.find?_cons]
      by_cases answered : id ∈ moment.answer
      · simp [answered]
      · simp [answered, lastAnswered, sinceRemoval]

theorem waitsSince_eq_none_iff : waitsSince past id = none ↔ firstAdded past id = none := by
  rw [waitsSince, Option.map_eq_none_iff]

namespace TimedSchedule

/-- Every packet is due an interval after it started to wait. -/
structure Keeps (timed : TimedSchedule) (interval : Nat) (past : List ScheduleMoment) : Prop where
  interval_eq : timed.schedule.interval = interval
  dueTime?_eq : ∀ id, timed.schedule.dueTime? id = (waitsSince past id).map (· + interval)
  le_now : ∀ id since, waitsSince past id = some since → since ≤ timed.now
  unanswered : ∀ id, firstAdded past id = none → lastAnswered past id = none

variable {timed : TimedSchedule} {call : ScheduleCall}

theorem keeps_new (interval start : Nat) : (new interval start).Keeps interval [] where
  interval_eq := rfl
  dueTime?_eq := fun _ => (new interval start).schedule.dueTime?_clear
  le_now := by rintro _ _ ⟨⟩
  unanswered := fun _ _ => rfl

/-- A round answers the packets that have waited for an interval, and no other call answers any. -/
theorem Keeps.mem_perform_iff (keeps : timed.Keeps interval past) :
    id ∈ (timed.perform call).2 ↔ ∃ forgotten, call = .next forgotten ∧ id ∉ forgotten ∧
      ∃ since, waitsSince past id = some since ∧ since + interval ≤ timed.now := by
  cases call with
  | next forgotten =>
      have due_iff :
          (∃ time, timed.schedule.dueTime? id = some time ∧ time ≤ timed.now) ↔
            ∃ since, waitsSince past id = some since ∧ since + interval ≤ timed.now := by
        simp [keeps.dueTime?_eq]
      simp only [perform, GapSchedule.mem_next, due_iff, ScheduleCall.next.injEq, exists_eq_left']
  | _ => simp [perform]

/-- What a call does to the time since when a packet waits. -/
theorem Keeps.waitsSince_concat (keeps : timed.Keeps interval past) :
    waitsSince (past ++ [timed.moment call]) id =
      if call.removes id then none
      else if id ∈ (timed.perform call).2 then some timed.now
      else (waitsSince past id).or (if id ∈ call.added then some timed.now else none) := by
  rw [waitsSince, firstAdded_concat, lastAnswered_concat]
  cases removed : call.removes id with
  | true => simp [moment, removed]
  | false =>
      by_cases answered : id ∈ (timed.perform call).2
      · obtain ⟨forgotten, -, -, since, waits, -⟩ := keeps.mem_perform_iff.mp answered
        have le_now := keeps.le_now id since waits
        obtain ⟨added, added_eq, rfl⟩ := Option.map_eq_some_iff.mp waits
        have added_le : added ≤ timed.now := (le_max_left _ _).trans le_now
        simp [moment, removed, answered, added_eq, added_le]
      · cases added_eq : firstAdded past id with
        | some added => simp [moment, removed, answered, waitsSince, added_eq]
        | none =>
            have unanswered := keeps.unanswered id added_eq
            by_cases added : id ∈ call.added
            · simp [moment, removed, answered, waitsSince, added_eq, unanswered, added]
            · simp [moment, removed, answered, waitsSince, added_eq, added]

/-- A packet starts to wait when it is added, and again when it is answered. -/
theorem Keeps.waitsSince_of_added (keeps : timed.Keeps interval past)
    (unknown : firstAdded past id = none) (added : id ∈ call.added) :
    waitsSince (past ++ [timed.moment call]) id = some timed.now := by
  cases call with
  | add ids =>
      have added : id ∈ ids := added
      simp [keeps.waitsSince_concat, waitsSince_eq_none_iff.mpr unknown, added,
        TimedSchedule.perform, ScheduleCall.removes, ScheduleCall.added]
  | _ => cases added

theorem Keeps.waitsSince_of_answered (keeps : timed.Keeps interval past)
    (answered : id ∈ (timed.perform call).2) :
    waitsSince (past ++ [timed.moment call]) id = some timed.now := by
  obtain ⟨forgotten, rfl, told, -⟩ := keeps.mem_perform_iff.mp answered
  simp [keeps.waitsSince_concat, answered, told, ScheduleCall.removes]

theorem Keeps.perform (keeps : timed.Keeps interval past) (call : ScheduleCall) :
    (timed.perform call).1.Keeps interval (past ++ [timed.moment call]) where
  interval_eq := by
    cases call with
    | _ => exact keeps.interval_eq
  dueTime?_eq := by
    intro id
    rw [keeps.waitsSince_concat]
    cases call with
    | add ids =>
        simp only [TimedSchedule.perform, ScheduleCall.removes, ScheduleCall.added,
          GapSchedule.dueTime?_add, keeps.dueTime?_eq, keeps.interval_eq]
        by_cases added : id ∈ ids
        · simp [added]
        · simp [added]
    | next forgotten =>
        simp only [TimedSchedule.perform, ScheduleCall.removes, ScheduleCall.added,
          GapSchedule.dueTime?_next, keeps.dueTime?_eq, keeps.interval_eq]
        by_cases answered : id ∈ (timed.schedule.next forgotten timed.now).2
        · have kept : id ∉ forgotten := (GapSchedule.mem_next.mp answered).1
          simp [answered, kept]
        · by_cases told : id ∈ forgotten
          · simp [answered, told]
          · simp [answered, told]
    | clear => exact GapSchedule.dueTime?_clear
    | wait duration =>
        simp [TimedSchedule.perform, ScheduleCall.removes, ScheduleCall.added, keeps.dueTime?_eq]
  le_now := by
    intro id since
    have now_le : timed.now ≤ (timed.perform call).1.now := by
      cases call with
      | wait duration => exact Nat.le_add_right _ _
      | _ => exact Nat.le_refl _
    rw [keeps.waitsSince_concat]
    split_ifs
    · rintro ⟨⟩
    · rintro ⟨⟩
      exact now_le
    · intro waits
      rcases Option.or_eq_some_iff.mp waits with before | ⟨-, added⟩
      · exact (keeps.le_now id since before).trans now_le
      · cases added
        exact now_le
    · rw [Option.or_none]
      exact fun before => (keeps.le_now id since before).trans now_le
  unanswered := by
    intro id
    rw [firstAdded_concat, lastAnswered_concat]
    cases removed : (timed.moment call).call.removes id with
    | true => simp
    | false =>
        intro absent
        simp only [Bool.false_eq_true, if_false, Option.or_eq_none_iff] at absent ⊢
        rw [if_neg, keeps.unanswered id absent.1]
        intro answered
        obtain ⟨forgotten, -, -, since, waits, -⟩ := keeps.mem_perform_iff.mp answered
        rw [waitsSince_eq_none_iff.mpr absent.1] at waits
        cases waits

/-- The packets that were added since they were removed last are those in the schedule. -/
theorem Keeps.mem_dueTimes_iff (keeps : timed.Keeps interval past) :
    id ∈ timed.schedule.dueTimes ↔ (firstAdded past id).isSome := by
  rw [GapSchedule.mem_dueTimes_iff, keeps.dueTime?_eq, waitsSince, Option.isSome_map,
    Option.isSome_map]

theorem Keeps.size_eq (keeps : timed.Keeps interval past) :
    timed.schedule.size = {id | (firstAdded past id).isSome}.ncard := by
  have held : {id | (firstAdded past id).isSome} =
      (timed.schedule.dueTimes.keys.toFinset : Set PacketId) := by
    ext id
    rw [Set.mem_ofPred_eq, ← keeps.mem_dueTimes_iff, List.coe_toFinset, Set.mem_ofPred_eq,
      Std.TreeMap.mem_keys]
  rw [held, Set.ncard_coe_finset, List.toFinset_card_of_nodup Std.TreeMap.nodup_keys,
    Std.TreeMap.length_keys]
  rfl

/-! ## Runs -/

variable {calls : List ScheduleCall} {earlier between later : List ScheduleMoment}
  {current : ScheduleMoment}

/-- Wherever a record is cut, the schedule keeps what has happened so far. -/
theorem Keeps.exists_of_cut (keeps : timed.Keeps interval past)
    (cut : timed.trace calls = earlier ++ current :: later) :
    ∃ (reached : TimedSchedule) (call : ScheduleCall) (rest : List ScheduleCall),
      current = reached.moment call ∧ reached.Keeps interval (past ++ earlier) ∧
        later = (reached.perform call).1.trace rest := by
  induction earlier generalizing timed calls past with
  | nil =>
      cases calls with
      | nil => cases cut
      | cons call calls =>
          cases cut
          rw [List.append_nil]
          exact ⟨timed, call, calls, rfl, keeps, rfl⟩
  | cons first earlier ih =>
      cases calls with
      | nil => cases cut
      | cons call calls =>
          rw [trace, List.cons_append, List.cons_eq_cons] at cut
          obtain ⟨rfl, cut⟩ := cut
          rw [List.append_cons]
          exact ih (keeps.perform call) cut

/-- A call that does not remove a packet does not let it wait since an earlier time. -/
theorem Keeps.exists_waitsSince_concat (keeps : timed.Keeps interval past) {start : Nat}
    (waits : waitsSince past id = some start) (kept : call.removes id = false) :
    ∃ since, waitsSince (past ++ [timed.moment call]) id = some since ∧ start ≤ since := by
  rw [keeps.waitsSince_concat, kept, waits]
  by_cases answered : id ∈ (timed.perform call).2
  · exact ⟨timed.now, by simp [answered], keeps.le_now id start waits⟩
  · exact ⟨start, by simp [answered], Nat.le_refl start⟩

/-- A packet that waits is not answered for an interval, unless it is removed. -/
theorem Keeps.add_interval_le (keeps : timed.Keeps interval past) {start : Nat}
    (waits : waitsSince past id = some start)
    (cut : timed.trace calls = between ++ current :: later)
    (kept : ∀ moment ∈ between, moment.call.removes id = false) (answered : id ∈ current.answer) :
    start + interval ≤ current.before.now := by
  induction between generalizing timed calls past start with
  | nil =>
      cases calls with
      | nil => cases cut
      | cons call calls =>
          cases cut
          obtain ⟨forgotten, -, -, since, since_eq, due⟩ := keeps.mem_perform_iff.mp answered
          cases waits.symm.trans since_eq
          exact due
  | cons first between ih =>
      cases calls with
      | nil => cases cut
      | cons call calls =>
          rw [trace, List.cons_append, List.cons_eq_cons] at cut
          obtain ⟨rfl, cut⟩ := cut
          rw [List.forall_mem_cons] at kept
          obtain ⟨since, waits', start_le⟩ := keeps.exists_waitsSince_concat waits kept.1
          exact (Nat.add_le_add_right start_le interval).trans
            (ih (keeps.perform call) waits' cut kept.2)

/-- In whatever order the calls are made, and however time passes, every packet is answered when it
has waited for an interval. -/
theorem answersInTime_trace (interval start : Nat) (calls : List ScheduleCall) :
    AnswersInTime interval ((new interval start).trace calls) where
  mem_answer_iff := by
    intro earlier current later id cut
    obtain ⟨reached, call, -, rfl, keeps, -⟩ := (keeps_new interval start).exists_of_cut cut
    exact keeps.mem_perform_iff
  ascending := by
    intro current member
    obtain ⟨earlier, later, cut⟩ := List.append_of_mem member
    obtain ⟨reached, call, -, rfl, -⟩ := (keeps_new interval start).exists_of_cut cut
    cases call with
    | next forgotten => exact GapSchedule.pairwise_due
    | _ => exact List.Pairwise.nil
  delayed := by
    intro earlier first between second later id cut unknown added answered kept
    obtain ⟨reached, call, rest, rfl, keeps, rest_eq⟩ :=
      (keeps_new interval start).exists_of_cut cut
    have waits := keeps.waitsSince_of_added unknown added
    exact (keeps.perform call).add_interval_le waits rest_eq.symm kept answered
  spaced := by
    intro earlier first between second later id cut answered answered' kept
    obtain ⟨reached, call, rest, rfl, keeps, rest_eq⟩ :=
      (keeps_new interval start).exists_of_cut cut
    have waits := keeps.waitsSince_of_answered answered
    exact (keeps.perform call).add_interval_le waits rest_eq.symm kept answered'
  unmoved := by
    intro earlier current later ids cut call_eq
    obtain ⟨reached, call, -, rfl, keeps, -⟩ := (keeps_new interval start).exists_of_cut cut
    obtain rfl : call = .add ids := call_eq
    refine (GapSchedule.add_filter reached.now fun id _ known => ?_).symm
    rw [keeps.mem_dueTimes_iff]
    simpa using known
  size_eq := by
    intro earlier current later cut
    obtain ⟨reached, call, -, rfl, keeps, -⟩ := (keeps_new interval start).exists_of_cut cut
    exact (keeps.perform call).size_eq

/-- A packet that is added again is answered when it would have been answered anyway. -/
example :
    ((new 100 0).trace
        [.add [5], .wait 60, .add [5, 6], .wait 40, .next [], .wait 60, .next [5]]).map
        ScheduleMoment.answer =
      [[], [], [], [], [5], [], [6]] := by
  decide +kernel

end TimedSchedule
end Playback
end AudioMulticast
