import AudioMulticast.Proofs.Playback.GapTimes
import AudioMulticast.Proofs.Playback.ReceptionJournal

/-!
# Which gaps are pursued

A packet that is missing should be in the schedule until it arrives or leaves the window.  Each
round of requests is given what the round before it has answered to be forgotten.  If the packets
were forgotten between the two rounds, that answer is about another stream, and what it strikes off
the schedule may be a gap of the new one.  Apart from that, no gap is ever lost.
-/

namespace AudioMulticast
namespace Playback
namespace SessionJournal

variable {id other : PacketId} {payload : Bytes}

/-- The first packet leaves no gap. -/
theorem not_isMissing_start (size : Nat) (id : PacketId) (payload : Bytes) (other : PacketId) :
    ¬(start size id payload).isMissing other := by
  rw [isMissing_iff]
  rintro ⟨⟨next_le, le_top⟩, -, absent⟩
  have same : other.val = id.val := Nat.le_antisymm le_top next_le
  simp only [start, same, Function.update_self] at absent
  cases absent

/-- A packet that is missing once another one has been accepted was missing before, or is revealed.
-/
theorem isMissing_of_accept (journal : SessionJournal)
    (missing : (journal.accept id payload).isMissing other) :
    journal.isMissing other ∨ other ∈ journal.revealed id payload := by
  obtain ⟨⟨next_le, le_top⟩, aligned, absent⟩ := isMissing_iff.mp missing
  have different : other.val ≠ id.val := by
    intro same
    simp only [accept, same, Function.update_self] at absent
    cases absent
  have absent : journal.payloads other.val = none := by
    simpa only [accept, Function.update_of_ne different] using absent
  have next_le' : journal.next ≤ (journal.accept id payload).next := le_max_left _ _
  have top_eq : (journal.accept id payload).top = max journal.top id.val := rfl
  rcases Nat.lt_or_ge journal.top other.val with top_lt | le_top
  · exact .inr (mem_revealed.mpr ⟨by omega, aligned, top_lt, next_le⟩)
  · exact .inl (isMissing_iff.mpr ⟨⟨by omega, le_top⟩, aligned, absent⟩)

/-- Reading does not open gaps. -/
theorem isMissing_of_read (journal : SessionJournal) (missing : journal.read.1.isMissing id) :
    journal.isMissing id := by
  rcases journal.read_cases with ⟨-, read_eq⟩ | ⟨-, -, read_eq⟩ | ⟨-, _, -, read_eq⟩
  · rwa [read_eq] at missing
  · rwa [read_eq] at missing
  · rw [read_eq, isMissing_iff] at missing
    obtain ⟨⟨next_le, le_top⟩, aligned, absent⟩ := missing
    exact isMissing_iff.mpr ⟨⟨(Nat.le_add_right _ _).trans next_le, le_top⟩, aligned, absent⟩

end SessionJournal

namespace Journal

/-- Whether a packet is missing. -/
def Lacks (journal : Journal) (id : PacketId) : Prop :=
  ∃ session, journal.session = some session ∧ session.isMissing id

/-- Whether a packet is not above the highest id. -/
def Reaches (journal : Journal) (id : PacketId) : Prop :=
  ∃ session, journal.session = some session ∧ id.val ≤ session.top

variable {journal written : Journal} {id other : PacketId} {payload : Bytes}
  {missed : List PacketId}

theorem Lacks.reaches (lacks : journal.Lacks id) : journal.Reaches id := by
  obtain ⟨session, found, missing⟩ := lacks
  exact ⟨session, found, (SessionJournal.isMissing_iff.mp missing).1.2⟩

/-- A packet that is missing after another one has been accepted was missing before, or is revealed.
-/
theorem lacks_of_write (write_eq : journal.write id payload = .ok (written, missed))
    (lacks : written.Lacks other) : journal.Lacks other ∨ other ∈ missed := by
  obtain ⟨-, rfl, rfl⟩ := write_eq_ok write_eq
  obtain ⟨session, found, missing⟩ := lacks
  cases found
  cases session_eq : journal.session with
  | none =>
      simp only [accept, session_eq] at missing
      exact absurd missing (SessionJournal.not_isMissing_start journal.size id payload other)
  | some session =>
      simp only [accept, session_eq] at missing ⊢
      exact (session.isMissing_of_accept missing).imp_left fun missing =>
        ⟨session, session_eq, missing⟩

theorem reaches_of_write (write_eq : journal.write id payload = .ok (written, missed))
    (reaches : journal.Reaches other) : written.Reaches other := by
  obtain ⟨-, rfl, -⟩ := write_eq_ok write_eq
  obtain ⟨session, found, le_top⟩ := reaches
  refine ⟨_, rfl, ?_⟩
  simp only [accept, found, SessionJournal.accept]
  omega

/-- A packet that is revealed is above the highest id so far. -/
theorem reaches_of_mem_missed (write_eq : journal.write id payload = .ok (written, missed))
    (member : other ∈ missed) : written.Reaches other ∧ ¬journal.Reaches other := by
  obtain ⟨-, rfl, rfl⟩ := write_eq_ok write_eq
  cases found : journal.session with
  | none =>
      simp only [accept, found] at member
      cases member
  | some session =>
      simp only [accept, found] at member ⊢
      obtain ⟨less, -, top_lt, -⟩ := SessionJournal.mem_revealed.mp member
      refine ⟨⟨_, rfl, ?_⟩, ?_⟩
      · simp only [SessionJournal.accept]
        omega
      · rintro ⟨other, found', le_top⟩
        rw [found] at found'
        cases found'
        omega

theorem lacks_of_read (lacks : journal.read.1.Lacks id) : journal.Lacks id := by
  obtain ⟨played, found, missing⟩ := lacks
  cases session_eq : journal.session with
  | none =>
      simp only [read, session_eq] at found
      cases found
  | some session =>
      simp only [read, session_eq] at found
      cases found
      exact ⟨session, session_eq, session.isMissing_of_read missing⟩

theorem reaches_of_read (reaches : journal.Reaches id) : journal.read.1.Reaches id := by
  obtain ⟨session, found, le_top⟩ := reaches
  rw [read, found]
  exact ⟨_, rfl, session.read_top ▸ le_top⟩

end Journal

/-- A reception whose rounds of requests follow each other. -/
structure Pursuit where
  /-- The reception. -/
  reception : Reception
  /-- The time. -/
  now : Nat
  /-- What the last round has answered to be forgotten, which the next round is given. -/
  forgotten : List PacketId
  /-- Whether the packets were forgotten since the last round. -/
  isStale : Bool
  /-- The packets that were missing when they were struck off the schedule. -/
  lost : List PacketId

/-- What can happen between two rounds, and a round. -/
inductive PursuitEvent where
  /-- A packet is received. -/
  | receive (packet : DataPacket)
  /-- Playback takes the next piece of audio. -/
  | play
  /-- The flag is lowered, and if it was raised the packets are forgotten. -/
  | monitor
  /-- A station is chosen. -/
  | choose (station : Option Station)
  /-- Time passes. -/
  | wait (duration : Nat)
  /-- The packets to be requested are determined. -/
  | round
  deriving DecidableEq

namespace Pursuit

/-- A new reception, before its first round. -/
def new (size interval : Nat) : Pursuit :=
  { reception := .new size interval, now := 0, forgotten := [], isStale := false, lost := [] }

/-- Lower the flag, and forget the packets if it was raised. -/
def monitor (pursuit : Pursuit) : Pursuit :=
  let (tuning, _, raised) := pursuit.reception.tuning.collect
  let collected := { pursuit.reception with tuning }
  if raised then
    { pursuit with reception := collected.reset, isStale := true, lost := [] }
  else
    { pursuit with reception := collected }

/-- Determine the packets to be requested.  What the last round has answered is of another stream if
the packets were forgotten since. -/
def round (pursuit : Pursuit) : Pursuit :=
  let (reception, round) := pursuit.reception.nextRound pursuit.now pursuit.forgotten
  let struck := pursuit.forgotten.filter pursuit.reception.window.isMissing
  { pursuit with
    reception
    forgotten := round.forget
    isStale := false
    lost := if pursuit.isStale then pursuit.lost ++ struck else pursuit.lost }

/-- The pursuit after an event. -/
def perform (pursuit : Pursuit) : PursuitEvent → Except Overflow Pursuit
  | .receive packet => do
      let (reception, _) ← pursuit.reception.receive pursuit.now packet
      return { pursuit with reception }
  | .play => do
      let (reception, _) ← pursuit.reception.play
      return { pursuit with reception }
  | .monitor => .ok pursuit.monitor
  | .choose station =>
      let tuning := (pursuit.reception.tuning.choose station).1
      .ok { pursuit with reception := { pursuit.reception with tuning } }
  | .wait duration => .ok { pursuit with now := pursuit.now + duration }
  | .round => .ok pursuit.round

/-- The pursuit after some events. -/
def run : Pursuit → List PursuitEvent → Except Overflow Pursuit
  | pursuit, [] => .ok pursuit
  | pursuit, event :: events => do
      let performed ← pursuit.perform event
      performed.run events

/-- What holds of every pursuit.  As long as the packets are not forgotten, what is to be forgotten
is not missing and never will be. -/
structure Sound (pursuit : Pursuit) (journal : Journal) : Prop where
  follows : pursuit.reception.Follows journal
  scheduled_iff : ∀ id, journal.Lacks id →
    ((pursuit.reception.gaps.dueTime? id).isSome ↔ id ∉ pursuit.lost)
  reaches_scheduled : ∀ id, (pursuit.reception.gaps.dueTime? id).isSome → journal.Reaches id
  reaches_lost : ∀ id ∈ pursuit.lost, journal.Reaches id
  settled : pursuit.isStale = false →
    ∀ id ∈ pursuit.forgotten, journal.Reaches id ∧ ¬journal.Lacks id

variable {pursuit performed : Pursuit} {journal : Journal}

theorem sound_new (size : Word) (interval : Nat) :
    (new size.val interval).Sound { size := size.val } where
  follows := Reception.follows_new size interval
  scheduled_iff := by
    rintro id ⟨_, found, -⟩
    cases found
  reaches_scheduled := by
    intro id scheduled
    rw [new, Reception.new, GapSchedule.dueTime?, Std.TreeMap.getElem?_emptyc] at scheduled
    cases scheduled
  reaches_lost := by rintro _ ⟨⟩
  settled := by rintro _ _ ⟨⟩

/-- A change of the tuning alone has no bearing on the packets. -/
theorem Sound.retune (sound : pursuit.Sound journal) (tuning : Tuning) (now : Nat) :
    { pursuit with reception := { pursuit.reception with tuning }, now }.Sound journal where
  follows := ⟨sound.follows.valid, sound.follows.window_eq⟩
  scheduled_iff := sound.scheduled_iff
  reaches_scheduled := sound.reaches_scheduled
  reaches_lost := sound.reaches_lost
  settled := sound.settled

theorem Sound.store (sound : pursuit.Sound journal) {packet : DataPacket} {received : Reception}
    {missed : List PacketId}
    (stored : pursuit.reception.store pursuit.now packet = .ok (received, missed)) :
    ∃ journal, { pursuit with reception := received }.Sound journal := by
  rcases sound.follows.store_cases stored with ⟨rfl, -⟩ | ⟨written, write_eq, follows, rfl⟩
  · exact ⟨journal, sound⟩
  refine ⟨written, follows, ?_, ?_, ?_, ?_⟩
  · intro id lacks
    rw [GapSchedule.isSome_dueTime?_add]
    rcases Journal.lacks_of_write write_eq lacks with before | revealed
    · have unrevealed : id ∉ missed := fun member =>
        (Journal.reaches_of_mem_missed write_eq member).2 before.reaches
      rw [or_iff_left unrevealed]
      exact sound.scheduled_iff id before
    · refine iff_of_true (.inr revealed) fun member => ?_
      exact (Journal.reaches_of_mem_missed write_eq revealed).2 (sound.reaches_lost id member)
  · intro id scheduled
    rw [GapSchedule.isSome_dueTime?_add] at scheduled
    rcases scheduled with before | revealed
    · exact Journal.reaches_of_write write_eq (sound.reaches_scheduled id before)
    · exact (Journal.reaches_of_mem_missed write_eq revealed).1
  · exact fun id member => Journal.reaches_of_write write_eq (sound.reaches_lost id member)
  · intro fresh id member
    obtain ⟨reaches, settled⟩ := sound.settled fresh id member
    refine ⟨Journal.reaches_of_write write_eq reaches, fun lacks => ?_⟩
    rcases Journal.lacks_of_write write_eq lacks with before | revealed
    · exact settled before
    · exact (Journal.reaches_of_mem_missed write_eq revealed).2 reaches

theorem Sound.play (sound : pursuit.Sound journal) {played : Reception} {piece : Option Bytes}
    (found : pursuit.reception.play = .ok (played, piece)) :
    { pursuit with reception := played }.Sound journal.read.1 := by
  obtain ⟨follows, gaps_eq, -⟩ := sound.follows.play_cases found
  refine ⟨follows, ?_, ?_, ?_, ?_⟩
  · rw [gaps_eq]
    exact fun id lacks => sound.scheduled_iff id (Journal.lacks_of_read lacks)
  · rw [gaps_eq]
    exact fun id scheduled => Journal.reaches_of_read (sound.reaches_scheduled id scheduled)
  · exact fun id member => Journal.reaches_of_read (sound.reaches_lost id member)
  · intro fresh id member
    obtain ⟨reaches, settled⟩ := sound.settled fresh id member
    exact ⟨Journal.reaches_of_read reaches, fun lacks => settled (Journal.lacks_of_read lacks)⟩

theorem Sound.monitor (sound : pursuit.Sound journal) :
    ∃ journal, pursuit.monitor.Sound journal := by
  cases raised : pursuit.reception.tuning.restart with
  | false =>
      refine ⟨journal, ?_⟩
      simp only [Pursuit.monitor, Tuning.collect, raised]
      exact sound.retune _ _
  | true =>
      refine ⟨{ size := journal.size }, ?_⟩
      simp only [Pursuit.monitor, Tuning.collect, raised, if_true]
      have follows := sound.follows.reset
      refine ⟨⟨follows.valid, follows.window_eq⟩, ?_, ?_, by rintro _ ⟨⟩, by rintro ⟨⟩⟩
      · rintro id ⟨_, found, -⟩
        cases found
      · intro id scheduled
        rw [Reception.reset, GapSchedule.dueTime?_clear] at scheduled
        cases scheduled

theorem Sound.isMissing_iff (sound : pursuit.Sound journal) {id : PacketId} :
    pursuit.reception.window.isMissing id ↔ journal.Lacks id :=
  sound.follows.isMissing_iff

theorem Sound.round (sound : pursuit.Sound journal) : pursuit.round.Sound journal := by
  simp only [Pursuit.round, Reception.nextRound, Window.split_eq]
  refine ⟨⟨sound.follows.valid, sound.follows.window_eq⟩, ?_, ?_, ?_, ?_⟩
  · intro id lacks
    rw [GapSchedule.isSome_dueTime?_next, sound.scheduled_iff id lacks]
    cases stale : pursuit.isStale with
    | false =>
        -- What this stream has settled is not missing again, so nothing missing is struck off.
        have kept : id ∉ pursuit.forgotten := fun member => (sound.settled stale id member).2 lacks
        rw [and_iff_left kept]
        rfl
    | true =>
        have missing := sound.isMissing_iff.mpr lacks
        simp only [if_true, List.mem_append, List.mem_filter, missing, and_true, not_or]
  · intro id scheduled
    rw [GapSchedule.isSome_dueTime?_next] at scheduled
    exact sound.reaches_scheduled id scheduled.1
  · intro id member
    cases stale : pursuit.isStale with
    | false =>
        rw [stale] at member
        exact sound.reaches_lost id member
    | true =>
        rw [stale, if_pos rfl, List.mem_append, List.mem_filter] at member
        rcases member with before | ⟨-, missing⟩
        · exact sound.reaches_lost id before
        · exact (sound.isMissing_iff.mp missing).reaches
  · intro _ id member
    rw [List.mem_filter, Bool.not_eq_true', Bool.eq_false_iff] at member
    obtain ⟨answered, arrived⟩ := member
    obtain ⟨-, time, found, -⟩ := GapSchedule.mem_next.mp answered
    refine ⟨sound.reaches_scheduled id (by rw [found]; rfl), fun lacks => ?_⟩
    exact arrived (sound.isMissing_iff.mpr lacks)

theorem exists_sound_of_perform (sound : pursuit.Sound journal) {event : PursuitEvent}
    (performed_eq : pursuit.perform event = .ok performed) :
    ∃ journal, performed.Sound journal := by
  cases event with
  | receive packet =>
      obtain ⟨⟨received, missed⟩, receive_eq, done⟩ := Overflow.bind_eq_ok_iff.mp performed_eq
      cases done
      have screened := sound.retune (pursuit.reception.tuning.screen packet.session).1 pursuit.now
      rcases Reception.receive_cases receive_eq with ⟨rfl, -⟩ | stored
      · exact ⟨journal, screened⟩
      · exact screened.store stored
  | play =>
      obtain ⟨⟨played, piece⟩, play_eq, done⟩ := Overflow.bind_eq_ok_iff.mp performed_eq
      cases done
      exact ⟨_, sound.play play_eq⟩
  | monitor =>
      cases performed_eq
      exact sound.monitor
  | choose station =>
      cases performed_eq
      exact ⟨journal, sound.retune _ _⟩
  | wait duration =>
      cases performed_eq
      exact ⟨journal, sound.retune _ _⟩
  | round =>
      cases performed_eq
      exact ⟨journal, sound.round⟩

theorem exists_sound_of_run {events : List PursuitEvent} {pursuit last : Pursuit}
    {journal : Journal} (sound : pursuit.Sound journal) (run_eq : pursuit.run events = .ok last) :
    ∃ journal, last.Sound journal := by
  induction events generalizing pursuit journal with
  | nil =>
      cases run_eq
      exact ⟨journal, sound⟩
  | cons event events ih =>
      obtain ⟨performed, performed_eq, run_eq⟩ := Overflow.bind_eq_ok_iff.mp run_eq
      obtain ⟨journal, sound⟩ := exists_sound_of_perform sound performed_eq
      exact ih sound run_eq

/-- In whatever order packets are received and played, stations are chosen, packets are forgotten
and rounds take place, a missing packet is in the schedule exactly if no round was told to forget it
while it was missing, by what a round of an earlier stream had answered. -/
theorem mem_dueTimes_iff_not_lost {size : Word} {interval : Nat} {events : List PursuitEvent}
    {last : Pursuit} (run_eq : (new size.val interval).run events = .ok last) {id : PacketId}
    (missing : last.reception.window.isMissing id) :
    id ∈ last.reception.gaps.dueTimes ↔ id ∉ last.lost := by
  obtain ⟨journal, sound⟩ := exists_sound_of_run (sound_new size interval) run_eq
  rw [GapSchedule.mem_dueTimes_iff]
  exact sound.scheduled_iff id (sound.isMissing_iff.mp missing)

/-- A gap that has been requested stays in the schedule. -/
theorem mem_dueTimes_of_requested :
    ∃ last,
      (new 20 250).run
          [.receive ⟨0, 0, [0, 1]⟩, .receive ⟨0, 4, [4, 5]⟩, .wait 250, .round] = .ok last ∧
        last.reception.window.isMissing 2 ∧ (2 : PacketId) ∈ last.reception.gaps.dueTimes := by
  have shown :
      ((new 20 250).run
          [.receive ⟨0, 0, [0, 1]⟩, .receive ⟨0, 4, [4, 5]⟩, .wait 250, .round]).map
          (fun last => (last.reception.window.isMissing 2, last.lost)) =
        .ok (true, []) := by
    decide +kernel
  obtain ⟨last, run_eq, view_eq⟩ := Overflow.map_eq_ok_iff.mp shown
  obtain ⟨missing, lost_eq⟩ := Prod.mk.inj view_eq
  refine ⟨last, run_eq, missing, ?_⟩
  rw [@mem_dueTimes_iff_not_lost 20 250 _ _ run_eq 2 missing, lost_eq]
  exact List.not_mem_nil

/-- The sender is restarted after the round that finds a late packet to have arrived, and the packet
with the same id is missing again before the next round. -/
def restartWithSameGap : List PursuitEvent :=
  [.receive ⟨1, 0, [0, 1]⟩, .monitor, .receive ⟨1, 0, [0, 1]⟩, .receive ⟨1, 4, [4, 5]⟩,
    .receive ⟨1, 2, [2, 3]⟩, .wait 250, .round, .receive ⟨2, 0, [0, 1]⟩, .monitor,
    .receive ⟨2, 0, [0, 1]⟩, .receive ⟨2, 4, [4, 5]⟩, .round]

/-- Not every missing packet is in the schedule. -/
theorem not_forall_missing_mem_dueTimes :
    ¬∀ (size : Word) (interval : Nat) (events : List PursuitEvent) (last : Pursuit),
      (new size.val interval).run events = .ok last →
        ∀ id, last.reception.window.isMissing id → id ∈ last.reception.gaps.dueTimes := by
  intro scheduled
  have shown :
      ((new 20 250).run restartWithSameGap).map
          (fun last =>
            (last.reception.window.isMissing 2, last.reception.gaps.dueTimes.contains 2)) =
        .ok (true, false) := by
    decide +kernel
  obtain ⟨last, run_eq, view_eq⟩ := Overflow.map_eq_ok_iff.mp shown
  obtain ⟨missing, absent⟩ := Prod.mk.inj view_eq
  have member := scheduled 20 250 restartWithSameGap last run_eq 2 missing
  rw [← Std.TreeMap.contains_iff_mem, absent] at member
  cases member

end Pursuit
end Playback
end AudioMulticast
