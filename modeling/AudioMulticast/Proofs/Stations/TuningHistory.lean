import AudioMulticast.Proofs.Stations.TuningSteps
import Mathlib.Data.List.DropRight

/-!
# Which sessions a receiver adopts

Four calls act on what a receiver is tuned to, in any order: the monitor takes notice of the flag,
a station is chosen, a packet is screened, and playback is demanded to start over.  Whether a packet
is accepted follows from the calls so far: its session has to be the highest one that was offered,
with the flag lowered, since the station was changed last.  Packets of two streams are never
accepted without the monitor having found the flag raised in between.
-/

namespace AudioMulticast

/-- What can be asked of a tuning. -/
inductive TuningCall where
  /-- Take notice of the flag and lower it. -/
  | collect
  /-- Choose the station to be played. -/
  | choose (station : Option Station)
  /-- Look at the session of a packet. -/
  | screen (session : SessionId)
  /-- Demand that playback starts over. -/
  | demand
  deriving DecidableEq

/-- What a tuning answers to a call. -/
inductive TuningAnswer where
  /-- The station, and whether the flag was raised. -/
  | collected (station : Option Station) (raised : Bool)
  /-- Whether the choice is a change. -/
  | chosen (changed : Bool)
  /-- Whether the packet is to be ignored. -/
  | screened (ignored : Bool)
  | done
  deriving DecidableEq

/-- One call of a run. -/
structure TuningMoment where
  /-- State before the call. -/
  before : Tuning
  /-- The call. -/
  call : TuningCall
  /-- Answer to the call. -/
  answer : TuningAnswer
  /-- State after the call. -/
  after : Tuning
  deriving DecidableEq

namespace TuningMoment

/-- Whether another station is played than before. -/
def isChange (moment : TuningMoment) : Bool :=
  moment.before.station.map Station.identity ≠ moment.after.station.map Station.identity

/-- The session that is offered with the flag lowered. -/
def offer? (moment : TuningMoment) : Option SessionId :=
  match moment.call with
  | .screen session => if moment.before.restart then none else some session
  | _ => none

/-- The session of a packet that is accepted. -/
def accepted? (moment : TuningMoment) : Option SessionId :=
  match moment.call, moment.answer with
  | .screen session, .screened false => some session
  | _, _ => none

/-- Whether the monitor finds the flag raised. -/
def FindsRaised (moment : TuningMoment) : Prop :=
  ∃ station, moment.answer = .collected station true

end TuningMoment

/-- What has happened since the station was changed last. -/
def sinceChange (past : List TuningMoment) : List TuningMoment :=
  past.rtakeWhile fun moment => !moment.isChange

/-- The highest session that was offered with the flag lowered since the station was changed last,
or zero. -/
def highestOffer (past : List TuningMoment) : SessionId :=
  ((sinceChange past).filterMap TuningMoment.offer?).foldl max 0

namespace Tuning

/-- Carry out a call. -/
def perform (tuning : Tuning) : TuningCall → Tuning × TuningAnswer
  | .collect => (tuning.collect.1, .collected tuning.collect.2.1 tuning.collect.2.2)
  | .choose station => (tuning.choose station).map id .chosen
  | .screen session => (tuning.screen session).map id .screened
  | .demand => (tuning.demandRestart, .done)

/-- The record of some calls. -/
def trace : Tuning → List TuningCall → List TuningMoment
  | _, [] => []
  | before, call :: calls =>
      let (after, answer) := before.perform call
      { before, call, answer, after } :: after.trace calls

end Tuning

/-- A record in which sessions are adopted as they rise, and never without notice. -/
structure AdoptsSessions (record : List TuningMoment) : Prop where
  /-- A packet is accepted if the flag is lowered and its session is the highest one so far. -/
  accepted_iff :
    ∀ {earlier moment later session}, record = earlier ++ moment :: later →
      moment.call = .screen session →
        (moment.answer = .screened false ↔
          moment.before.restart = false ∧ session = highestOffer earlier)
  /-- A packet that is accepted changes nothing. -/
  kept :
    ∀ {moment session}, moment ∈ record → moment.accepted? = some session →
      moment.after = moment.before
  /-- A packet changes something only if the flag is lowered and its session is higher than all so
  far: then the session is adopted and the flag is raised. -/
  after_eq :
    ∀ {earlier moment later session}, record = earlier ++ moment :: later →
      moment.call = .screen session →
        moment.after =
          if moment.before.restart = false ∧ highestOffer earlier < session then
            { moment.before with session, restart := true }
          else
            moment.before
  /-- As long as the station is not changed, the sessions of accepted packets do not fall. -/
  ascending :
    ∀ {earlier first between second later session next},
      record = earlier ++ first :: (between ++ second :: later) →
      first.accepted? = some session → second.accepted? = some next →
      (∀ moment ∈ between, moment.isChange = false) → session ≤ next
  /-- Between accepted packets of two sessions or of two stations, the monitor finds the flag
  raised. -/
  findsRaised :
    ∀ {earlier first between second later session next},
      record = earlier ++ first :: (between ++ second :: later) →
      first.accepted? = some session → second.accepted? = some next →
      (session ≠ next ∨ first.before.station.map Station.identity ≠
        second.before.station.map Station.identity) →
        ∃ moment ∈ between, moment.FindsRaised

namespace Tuning

variable {tuning : Tuning} {past later : List TuningMoment}

/-! ## Single calls -/

/-- What is recorded of a call. -/
def moment (tuning : Tuning) (call : TuningCall) : TuningMoment :=
  { before := tuning
    call
    answer := (tuning.perform call).2
    after := (tuning.perform call).1 }

theorem trace_cons (tuning : Tuning) (call : TuningCall) (calls : List TuningCall) :
    tuning.trace (call :: calls) =
      tuning.moment call :: (tuning.perform call).1.trace calls :=
  rfl

theorem isChange_moment_screen (tuning : Tuning) (session : SessionId) :
    (tuning.moment (.screen session)).isChange = false := by
  have station_eq : (tuning.screen session).1.station = tuning.station := by
    rcases tuning.screen_cases session with ⟨-, -, screen_eq⟩ | ⟨-, -, screen_eq⟩ | ⟨-, screen_eq⟩
    all_goals rw [screen_eq]
  simp [TuningMoment.isChange, moment, perform, station_eq]

theorem eq_screen_of_accepted? {call : TuningCall} {session : SessionId}
    (accepted : (tuning.moment call).accepted? = some session) :
    call = .screen session ∧ (tuning.moment call).answer = .screened false := by
  rw [TuningMoment.accepted?] at accepted
  split at accepted
  · next offered call_eq answer_eq =>
    cases accepted
    exact ⟨call_eq, answer_eq⟩
  · cases accepted

/-- A packet is accepted if the flag is lowered and its session is the current one. -/
theorem answer_screen_iff {session : SessionId} :
    (tuning.moment (.screen session)).answer = .screened false ↔
      tuning.restart = false ∧ session = tuning.session := by
  have answer_iff :
      (tuning.moment (.screen session)).answer = .screened false ↔
        (tuning.screen session).2 = false := by
    simp [moment, perform]
  rw [answer_iff]
  constructor
  · exact fun accepted => (screen_eq_accepted_iff.mp (screen_eq_of_accepted accepted)).2
  · exact fun current => by rw [screen_eq_accepted_iff.mpr ⟨rfl, current⟩]

/-- A packet of a higher session has it adopted, unless the flag is raised.  No other packet changes
anything. -/
theorem after_screen_eq (tuning : Tuning) (session : SessionId) :
    (tuning.moment (.screen session)).after =
      if tuning.restart = false ∧ tuning.session < session then
        { tuning with session, restart := true }
      else
        tuning := by
  have after_eq : (tuning.moment (.screen session)).after = (tuning.screen session).1 := rfl
  rw [after_eq]
  rcases tuning.screen_cases session with
    ⟨-, same, screen_eq⟩ | ⟨lowered, higher, screen_eq⟩ | ⟨lower, screen_eq⟩
  · rw [screen_eq, if_neg fun adopted => adopted.2.ne same.symm]
  · rw [screen_eq, if_pos ⟨lowered, higher⟩]
  · rw [screen_eq, if_neg fun adopted => (lower adopted.1).not_gt adopted.2]

/-- Only the monitor lowers the flag. -/
theorem persists_perform {call : TuningCall} (unnoticed : ¬(tuning.moment call).FindsRaised) :
    tuning.Persists (tuning.perform call).1 := by
  cases call with
  | collect =>
      cases raised : tuning.restart with
      | true => exact absurd ⟨tuning.station, by rw [← raised]; rfl⟩ unnoticed
      | false => exact fun _ => ⟨raised, rfl, rfl⟩
  | choose station => exact tuning.persists_choose station
  | screen session => exact tuning.persists_screen session
  | demand => exact tuning.persists_demandRestart

/-! ## The highest offer -/

/-- A change of the station makes all sessions before irrelevant, and an offer counts if it is
higher than those before. -/
theorem highestOffer_concat (past : List TuningMoment) (moment : TuningMoment) :
    highestOffer (past ++ [moment]) =
      if moment.isChange then 0 else max (highestOffer past) (moment.offer?.getD 0) := by
  rw [highestOffer, sinceChange, List.rtakeWhile_concat]
  cases moment.isChange with
  | true => rfl
  | false =>
      simp only [Bool.not_false, if_true, Bool.false_eq_true, if_false]
      rw [List.filterMap_append, List.foldl_append]
      cases offer_eq : moment.offer? with
      | none =>
          rw [List.filterMap_cons_none offer_eq]
          exact (max_eq_left (Fin.zero_le _)).symm
      | some session =>
          rw [List.filterMap_cons_some offer_eq]
          rfl

theorem highestOffer_le_append (past : List TuningMoment)
    (unchanged : ∀ moment ∈ later, moment.isChange = false) :
    highestOffer past ≤ highestOffer (past ++ later) := by
  induction later generalizing past with
  | nil => rw [List.append_nil]
  | cons moment later ih =>
      rw [List.forall_mem_cons] at unchanged
      have step : highestOffer past ≤ highestOffer (past ++ [moment]) := by
        rw [highestOffer_concat, unchanged.1]
        exact le_max_left _ _
      rw [List.append_cons]
      exact step.trans (ih _ unchanged.2)

theorem session_new : ({} : Tuning).session = highestOffer [] :=
  rfl

/-- If the current session is the highest offer, it still is after any call. -/
theorem session_perform (known : tuning.session = highestOffer past) (call : TuningCall) :
    (tuning.perform call).1.session = highestOffer (past ++ [tuning.moment call]) := by
  rw [highestOffer_concat, ← known]
  cases call with
  | collect => simp [TuningMoment.isChange, TuningMoment.offer?, moment, perform, collect]
  | choose station =>
      rcases tuning.choose_eq station with ⟨same, choose_eq⟩ | ⟨different, choose_eq⟩
      · simp [TuningMoment.isChange, TuningMoment.offer?, moment, perform, choose_eq, same]
      · simp [TuningMoment.isChange, moment, perform, choose_eq, different]
  | screen session =>
      rw [isChange_moment_screen, if_neg Bool.false_ne_true]
      rcases tuning.screen_cases session with
        ⟨lowered, rfl, screen_eq⟩ | ⟨lowered, higher, screen_eq⟩ | ⟨lower, screen_eq⟩
      · simp [TuningMoment.offer?, moment, perform, screen_eq, lowered]
      · simp [TuningMoment.offer?, moment, perform, screen_eq, lowered, higher.le]
      · cases raised : tuning.restart with
        | true => simp [TuningMoment.offer?, moment, perform, screen_eq, raised]
        | false =>
            simp [TuningMoment.offer?, moment, perform, screen_eq, raised, (lower raised).le]
  | demand => simp [TuningMoment.isChange, TuningMoment.offer?, moment, perform, demandRestart]

/-! ## Runs -/

/-- Wherever a record is cut, the current session is the highest offer so far. -/
theorem exists_of_cut {tuning : Tuning} {calls : List TuningCall}
    {past earlier later : List TuningMoment} {current : TuningMoment}
    (known : tuning.session = highestOffer past)
    (cut : tuning.trace calls = earlier ++ current :: later) :
    ∃ (reached : Tuning) (call : TuningCall) (rest : List TuningCall),
      current = reached.moment call ∧
      reached.session = highestOffer (past ++ earlier) ∧
      later = (reached.perform call).1.trace rest := by
  induction earlier generalizing tuning calls past with
  | nil =>
      cases calls with
      | nil => cases cut
      | cons call calls =>
          cases cut
          rw [List.append_nil]
          exact ⟨tuning, call, calls, rfl, known, rfl⟩
  | cons first earlier ih =>
      cases calls with
      | nil => cases cut
      | cons call calls =>
          rw [trace_cons, List.cons_append, List.cons_eq_cons] at cut
          obtain ⟨rfl, cut⟩ := cut
          rw [List.append_cons]
          exact ih (session_perform known call) cut

/-- Until the monitor finds the flag raised, station and session stay the same or the flag is
raised. -/
theorem persists_of_cut {tuning : Tuning} {calls : List TuningCall}
    {between later : List TuningMoment} {current : TuningMoment}
    (cut : tuning.trace calls = between ++ current :: later)
    (unnoticed : ∀ moment ∈ between, ¬moment.FindsRaised) : tuning.Persists current.before := by
  induction between generalizing tuning calls with
  | nil =>
      cases calls with
      | nil => cases cut
      | cons call calls =>
          cases cut
          exact .refl tuning
  | cons first between ih =>
      cases calls with
      | nil => cases cut
      | cons call calls =>
          rw [trace_cons, List.cons_append, List.cons_eq_cons] at cut
          obtain ⟨rfl, cut⟩ := cut
          rw [List.forall_mem_cons] at unnoticed
          exact (persists_perform unnoticed.1).trans (ih cut unnoticed.2)

/-- In whatever order the calls are made, sessions are adopted as they rise. -/
theorem adoptsSessions_trace (calls : List TuningCall) :
    AdoptsSessions (({} : Tuning).trace calls) where
  accepted_iff := by
    intro earlier current later session cut call_eq
    obtain ⟨reached, call, -, rfl, known, -⟩ := exists_of_cut session_new cut
    obtain rfl : call = .screen session := call_eq
    rw [answer_screen_iff, known]
    rfl
  kept := by
    intro current session member accepted
    obtain ⟨earlier, later, cut⟩ := List.append_of_mem member
    obtain ⟨reached, call, -, rfl, -⟩ := exists_of_cut session_new cut
    obtain ⟨rfl, answer_eq⟩ := eq_screen_of_accepted? accepted
    have current := answer_screen_iff.mp answer_eq
    rw [after_screen_eq, if_neg fun adopted => adopted.2.ne current.2.symm]
    rfl
  after_eq := by
    intro earlier current later session cut call_eq
    obtain ⟨reached, call, -, rfl, known, -⟩ := exists_of_cut session_new cut
    obtain rfl : call = .screen session := call_eq
    rw [after_screen_eq, known]
    rfl
  ascending := by
    intro earlier first between second later session next cut accepted accepted' unchanged
    obtain ⟨reached, call, rest, rfl, known, rest_eq⟩ := exists_of_cut session_new cut
    obtain ⟨rfl, answer_eq⟩ := eq_screen_of_accepted? accepted
    obtain ⟨reached', call', -, rfl, known', -⟩ :=
      exists_of_cut (session_perform known (.screen session)) rest_eq.symm
    obtain ⟨rfl, answer_eq'⟩ := eq_screen_of_accepted? accepted'
    have unchanged' : ∀ moment ∈ reached.moment (.screen session) :: between,
        moment.isChange = false :=
      List.forall_mem_cons.mpr ⟨reached.isChange_moment_screen session, unchanged⟩
    rw [(answer_screen_iff.mp answer_eq).2, (answer_screen_iff.mp answer_eq').2, known, known',
      ← List.append_cons]
    exact highestOffer_le_append _ unchanged'
  findsRaised := by
    intro earlier first between second later session next cut accepted accepted' different
    by_contra unnoticed
    obtain ⟨reached, call, rest, rfl, known, rest_eq⟩ := exists_of_cut session_new cut
    obtain ⟨rfl, answer_eq⟩ := eq_screen_of_accepted? accepted
    have persists := (reached.persists_screen session).trans
      (persists_of_cut rest_eq.symm fun moment member raised => unnoticed ⟨moment, member, raised⟩)
    obtain ⟨reached', call', -, rfl, -⟩ :=
      exists_of_cut (session_perform known (.screen session)) rest_eq.symm
    obtain ⟨rfl, answer_eq'⟩ := eq_screen_of_accepted? accepted'
    obtain ⟨lowered, next_eq⟩ := answer_screen_iff.mp answer_eq'
    obtain ⟨-, session_eq, station_eq⟩ := persists lowered
    rcases different with sessions | stations
    · exact sessions (((answer_screen_iff.mp answer_eq).2.trans session_eq.symm).trans next_eq.symm)
    · exact stations station_eq.symm

end Tuning
end AudioMulticast
