import AudioMulticast.Wire.Channel

/-!
# Attempts to send a datagram

Attempts follow one another until one succeeds, or until one has failed and the run turns out to
have been cancelled.  However many attempts are going to fail, and whenever the run is cancelled,
that comes to an end.  The datagram is delivered once if it is answered to be sent, and not at all
otherwise.
-/

namespace AudioMulticast
namespace Channel

variable {channel after : Channel} {target : Endpoint} {datagram : Bytes} {attempts : Nat}
  {isSent : Bool} {result : Channel × Bool}

/-- Attempts to send a datagram, from the first one to the end, with their number and their result.
Whether the run has been cancelled is asked after an attempt that has failed, and at no other
time. -/
inductive Retries (target : Endpoint) (datagram : Bytes) :
    Channel → Nat → Channel × Bool → Prop where
  /-- An attempt has succeeded. -/
  | sent {channel after : Channel} (succeeded : channel.attempt target datagram = (after, true)) :
      Retries target datagram channel 1 (after, true)
  /-- An attempt has failed, and the run has been cancelled. -/
  | gaveUp {channel after : Channel} (failed : channel.attempt target datagram = (after, false))
      (cancelled : after.cancelled = true) :
      Retries target datagram channel 1 (after, false)
  /-- An attempt has failed, and others follow. -/
  | again {channel after : Channel} {attempts : Nat} {result : Channel × Bool}
      (failed : channel.attempt target datagram = (after, false))
      (ongoing : after.cancelled = false) (rest : Retries target datagram after attempts result) :
      Retries target datagram channel (attempts + 1) result

/-! ## One attempt -/

/-- Number of attempts that fail before the next delivery. -/
def failuresLeft (channel : Channel) : Nat :=
  channel.failures.headD 0

theorem attempt_of_zero (ready : channel.failuresLeft = 0) (target : Endpoint) (datagram : Bytes) :
    channel.attempt target datagram =
      ({ channel.count with failures := channel.failures.tail }.deliver target datagram, true) := by
  obtain ⟨failures, cancelDuring, cancelled, attempts, sent⟩ := channel
  rcases failures with - | ⟨- | more, failures⟩
  · rfl
  · rfl
  · cases ready

theorem attempt_of_succ {more : Nat} (blocked : channel.failuresLeft = more + 1) (target : Endpoint)
    (datagram : Bytes) :
    channel.attempt target datagram =
      ({ channel.count with failures := more :: channel.failures.tail }, false) := by
  obtain ⟨failures, cancelDuring, cancelled, attempts, sent⟩ := channel
  rcases failures with - | ⟨- | more, failures⟩
  · cases blocked
  · cases blocked
  · cases blocked
    rfl

theorem attempt_cases (channel : Channel) (target : Endpoint) (datagram : Bytes) :
    channel.failuresLeft = 0 ∧ channel.attempt target datagram =
        ({ channel.count with failures := channel.failures.tail }.deliver target datagram, true) ∨
      ∃ more, channel.failuresLeft = more + 1 ∧ channel.attempt target datagram =
        ({ channel.count with failures := more :: channel.failures.tail }, false) := by
  cases number : channel.failuresLeft with
  | zero => exact .inl ⟨rfl, attempt_of_zero number target datagram⟩
  | succ more => exact .inr ⟨more, rfl, attempt_of_succ number target datagram⟩

/-- An attempt is counted, and delivers the datagram if it is answered to be sent. -/
theorem eq_of_attempt (attempted : channel.attempt target datagram = (after, isSent)) :
    ∃ failures, after =
      { channel.count with
        failures
        sent := if isSent then channel.sent.push (target, datagram) else channel.sent } := by
  obtain ⟨-, succeeded⟩ | ⟨more, -, failed⟩ := channel.attempt_cases target datagram
  · cases succeeded.symm.trans attempted
    exact ⟨_, rfl⟩
  · cases failed.symm.trans attempted
    exact ⟨_, rfl⟩

theorem sent_of_attempt (attempted : channel.attempt target datagram = (after, isSent)) :
    after.sent = if isSent then channel.sent.push (target, datagram) else channel.sent := by
  obtain ⟨failures, rfl⟩ := eq_of_attempt attempted
  rfl

theorem attempts_of_attempt (attempted : channel.attempt target datagram = (after, isSent)) :
    after.attempts = channel.attempts + 1 := by
  obtain ⟨failures, rfl⟩ := eq_of_attempt attempted
  rfl

/-! ## Attempts until the end -/

/-- What is noted about later attempts makes no difference to those that are made now. -/
theorem sendAfter_with_failures (later : List Nat) (failing : Nat) (channel : Channel)
    (failures : List Nat) :
    sendAfter target datagram later failing { channel with failures } =
      sendAfter target datagram later failing channel := by
  induction failing generalizing channel with
  | zero => rfl
  | succ more ih =>
      rw [sendAfter, sendAfter]
      exact congrArg (ite _ _) (ih channel.count)

/-- Sending is an attempt, and sending again if that has failed and the run goes on. -/
theorem send_eq (channel : Channel) (target : Endpoint) (datagram : Bytes) :
    channel.send target datagram =
      match channel.attempt target datagram with
      | (after, true) => (after, true)
      | (after, false) =>
          if after.cancelled then (after, false) else after.send target datagram := by
  obtain ⟨left_eq, succeeded⟩ | ⟨more, left_eq, failed⟩ := channel.attempt_cases target datagram
  · rw [succeeded, send, ← failuresLeft, left_eq]
    rfl
  · rw [failed, send, ← failuresLeft, left_eq, sendAfter]
    exact congrArg (ite _ _) (sendAfter_with_failures _ more channel.count _).symm

theorem Retries.eq_send (retries : Retries target datagram channel attempts result) :
    result = channel.send target datagram := by
  induction retries with
  | sent succeeded => rw [send_eq, succeeded]
  | gaveUp failed cancelled => rw [send_eq, failed]; exact (if_pos cancelled).symm
  | again failed ongoing _ ih =>
      rw [send_eq, failed, ih]
      exact (if_neg (Bool.eq_false_iff.mp ongoing)).symm

/-- Every attempt that fails leaves one failure less, so the attempts come to an end. -/
theorem exists_retries (channel : Channel) (target : Endpoint) (datagram : Bytes) :
    ∃ attempts, Retries target datagram channel attempts (channel.send target datagram) := by
  have ends : ∃ attempts result, Retries target datagram channel attempts result := by
    induction number : channel.failuresLeft generalizing channel with
    | zero => exact ⟨1, _, .sent (attempt_of_zero number target datagram)⟩
    | succ more ih =>
        have failed := attempt_of_succ number target datagram
        cases cancelled : channel.count.cancelled with
        | true => exact ⟨1, _, .gaveUp failed cancelled⟩
        | false =>
            obtain ⟨attempts, result, rest⟩ :=
              ih { channel.count with failures := more :: channel.failures.tail } rfl
            exact ⟨attempts + 1, result, .again failed cancelled rest⟩
  obtain ⟨attempts, result, retries⟩ := ends
  exact ⟨attempts, retries.eq_send ▸ retries⟩

theorem Retries.cancelled_of_unsent (retries : Retries target datagram channel attempts result)
    (unsent : result.2 = false) : result.1.cancelled = true := by
  induction retries with
  | sent _ => cases unsent
  | gaveUp _ cancelled => exact cancelled
  | again _ _ _ ih => exact ih unsent

theorem Retries.attempts_eq (retries : Retries target datagram channel attempts result) :
    result.1.attempts = channel.attempts + attempts := by
  induction retries with
  | sent succeeded => exact attempts_of_attempt succeeded
  | gaveUp failed _ => exact attempts_of_attempt failed
  | again failed _ _ ih => rw [ih, attempts_of_attempt failed, Nat.add_right_comm, Nat.add_assoc]

/-- At most one of the attempts delivers the datagram, and the answer tells whether one has. -/
theorem Retries.sent_eq (retries : Retries target datagram channel attempts result) :
    result.1.sent = if result.2 then channel.sent.push (target, datagram) else channel.sent := by
  induction retries with
  | sent succeeded => exact sent_of_attempt succeeded
  | gaveUp failed _ => exact sent_of_attempt failed
  | again failed _ _ ih =>
      have unsent := sent_of_attempt failed
      rwa [unsent] at ih

/-- There is one way only in which the attempts can go. -/
theorem Retries.iff (retries : Retries target datagram channel attempts result) {number : Nat}
    {outcome : Channel × Bool} :
    Retries target datagram channel number outcome ↔ number = attempts ∧ outcome = result := by
  constructor
  · intro other
    have outcome_eq : outcome = result := other.eq_send.trans retries.eq_send.symm
    have attempts_eq := other.attempts_eq
    rw [outcome_eq, retries.attempts_eq] at attempts_eq
    exact ⟨(Nat.add_left_cancel attempts_eq).symm, outcome_eq⟩
  · rintro ⟨rfl, rfl⟩
    exact retries

/-! ## Attempts that are told in advance -/

/-- What becomes of the attempts to send a datagram. -/
structure Script where
  /-- How many attempts fail before one succeeds. -/
  failing : Nat
  /-- The run is cancelled during the attempt with this number, counted from 1: before the first
  attempt if it is 0, and never if there is none.  A cancellation between two attempts is noticed
  like one during the second of them. -/
  moment : Option Nat
  deriving DecidableEq, Repr

/-- Whether the run has been cancelled by the end of an attempt, or before the first one for 0. -/
def Script.cancelledBy (script : Script) (attempt : Nat) : Bool :=
  script.moment.any (· ≤ attempt)

/-- A channel that does with the next datagram as a script has it, and then goes on with what it was
going to do.  Nothing is changed about what has been sent and how many attempts that took. -/
def prepare (channel : Channel) (script : Script) : Channel :=
  { channel with
    failures := script.failing :: channel.failures
    cancelDuring := script.moment.map (channel.attempts + ·)
    cancelled := script.moment == some 0 }

/-- A prepared channel after a number of attempts, all of which have failed. -/
def tried (channel : Channel) (script : Script) (number : Nat) : Channel :=
  { channel with
    failures := (script.failing - number) :: channel.failures
    cancelDuring := script.moment.map (channel.attempts + ·)
    cancelled := script.cancelledBy number
    attempts := channel.attempts + number }

variable {script : Script} {number : Nat}

theorem Script.cancelledBy_iff :
    script.cancelledBy number = true ↔ ∃ moment ∈ script.moment, moment ≤ number := by
  rw [cancelledBy, Option.any_eq_true]
  simp only [decide_eq_true_eq, Option.mem_def]

theorem Script.cancelledBy_eq_false_iff :
    script.cancelledBy number = false ↔ ∀ moment ∈ script.moment, number < moment := by
  rw [← Bool.not_eq_true, cancelledBy_iff]
  simp only [not_exists, not_and, Nat.not_le]

theorem Script.cancelledBy_of_le {later : Nat} (le : number ≤ later)
    (uncancelled : script.cancelledBy later = false) : script.cancelledBy number = false := by
  rw [cancelledBy_eq_false_iff] at uncancelled ⊢
  exact fun moment member => Nat.lt_of_le_of_lt le (uncancelled moment member)

theorem tried_zero (channel : Channel) (script : Script) :
    channel.tried script 0 = channel.prepare script := by
  have cancelled_eq : script.cancelledBy 0 = (script.moment == some 0) := by
    rw [Bool.eq_iff_iff, Script.cancelledBy_iff, beq_iff_eq]
    simp only [Nat.le_zero, exists_eq_right, Option.mem_def]
  rw [tried, cancelled_eq]
  rfl

/-- The run has been cancelled by the end of an attempt if it had been before, or is during it. -/
theorem count_tried (channel : Channel) (script : Script) (number : Nat) :
    (channel.tried script number).count =
      { channel.tried script (number + 1) with
        failures := (script.failing - number) :: channel.failures } := by
  have cancelled_eq : (script.cancelledBy number ||
      script.moment.map (channel.attempts + ·) == some (channel.attempts + number + 1)) =
        script.cancelledBy (number + 1) := by
    rw [Script.cancelledBy, Script.cancelledBy]
    cases script.moment with
    | none => rfl
    | some moment =>
        rw [Bool.eq_iff_iff]
        simp only [Option.any_some, Option.map_some, Bool.or_eq_true, decide_eq_true_eq, beq_iff_eq,
          Option.some.injEq]
        omega
  rw [count, tried, tried, cancelled_eq]
  rfl

theorem attempt_tried_of_lt (channel : Channel) (blocked : number < script.failing)
    (target : Endpoint) (datagram : Bytes) :
    (channel.tried script number).attempt target datagram =
      (channel.tried script (number + 1), false) := by
  have left : (channel.tried script number).failuresLeft = script.failing - (number + 1) + 1 := by
    change script.failing - number = _
    omega
  rw [attempt_of_succ left, count_tried]
  rfl

theorem attempt_tried_failing (channel : Channel) (script : Script) (target : Endpoint)
    (datagram : Bytes) :
    (channel.tried script script.failing).attempt target datagram =
      ({ channel.tried script (script.failing + 1) with
        failures := channel.failures }.deliver target datagram, true) := by
  have left : (channel.tried script script.failing).failuresLeft = 0 := Nat.sub_self _
  rw [attempt_of_zero left, count_tried]
  rfl

/-- As long as attempts fail and the run has not been cancelled, others follow. -/
theorem Retries.of_tried (blocked : number ≤ script.failing)
    (ongoing : number = 0 ∨ script.cancelledBy number = false)
    (rest : Retries target datagram (channel.tried script number) attempts result) :
    Retries target datagram (channel.prepare script) (number + attempts) result := by
  induction number generalizing attempts with
  | zero => rwa [Nat.zero_add, ← tried_zero]
  | succ number ih =>
      have uncancelled := ongoing.resolve_left number.succ_ne_zero
      have failed := channel.attempt_tried_of_lt blocked target datagram
      rw [Nat.add_right_comm, Nat.add_assoc]
      exact ih (Nat.le_of_succ_le blocked)
        (.inr (Script.cancelledBy_of_le number.le_succ uncancelled))
        (.again failed uncancelled rest)

theorem retries_of_ongoing (channel : Channel)
    (ongoing : script.failing = 0 ∨ script.cancelledBy script.failing = false)
    (target : Endpoint) (datagram : Bytes) :
    ∃ after,
      Retries target datagram (channel.prepare script) (script.failing + 1) (after, true) := by
  have succeeded := channel.attempt_tried_failing script target datagram
  exact ⟨_, .of_tried (Nat.le_refl _) ongoing (.sent succeeded)⟩

/-- An attempt that fails when the run has been cancelled is the last one.  If it was cancelled
before all attempts, that is the first one. -/
theorem retries_of_cancelled (channel : Channel) {moment : Nat} (member : moment ∈ script.moment)
    (blocked : script.failing ≠ 0) (early : moment ≤ script.failing) (target : Endpoint)
    (datagram : Bytes) :
    ∃ after, Retries target datagram (channel.prepare script) (max 1 moment) (after, false) := by
  have moment_le : max 1 moment ≤ script.failing :=
    Nat.max_le.mpr ⟨Nat.pos_of_ne_zero blocked, early⟩
  obtain ⟨number, number_eq⟩ : ∃ number, max 1 moment = number + 1 :=
    Nat.exists_eq_add_one_of_ne_zero (by omega)
  have failed := channel.attempt_tried_of_lt (number_eq ▸ moment_le) target datagram
  have cancelled : script.cancelledBy (number + 1) = true :=
    Script.cancelledBy_iff.mpr ⟨moment, member, by omega⟩
  have ongoing : number = 0 ∨ script.cancelledBy number = false := by
    rcases Nat.eq_zero_or_pos number with zero | pos
    · exact .inl zero
    · refine .inr (Script.cancelledBy_eq_false_iff.mpr fun other other_member => ?_)
      cases member.symm.trans other_member
      omega
  rw [number_eq]
  exact ⟨_, .of_tried (by omega) ongoing (.gaveUp failed cancelled)⟩

/-- How the attempts to send a datagram end if a script tells what becomes of them. -/
structure Script.Governs (script : Script) (target : Endpoint) (datagram : Bytes)
    (channel : Channel) (attempts : Nat) (result : Channel × Bool) : Prop where
  /-- The attempts come to an end, in one way only. -/
  retries_iff : ∀ {number : Nat} {outcome : Channel × Bool},
    Retries target datagram (channel.prepare script) number outcome ↔
      number = attempts ∧ outcome = result
  /-- They have been counted. -/
  attempts_eq : result.1.attempts = channel.attempts + attempts
  /-- The datagram is delivered once if it is answered to be sent, and not at all otherwise. -/
  sent_eq : result.1.sent = if result.2 then channel.sent.push (target, datagram) else channel.sent
  /-- It is sent unless attempts fail until the run has been cancelled. -/
  isSent_iff : result.2 = true ↔
    script.failing = 0 ∨ script.cancelledBy script.failing = false
  /-- All attempts that fail have to be made before one succeeds. -/
  attempts_of_sent : result.2 = true → attempts = script.failing + 1
  /-- No attempt is made after the one with which the cancellation is noticed. -/
  attempts_of_unsent : result.2 = false → ∃ moment ∈ script.moment, attempts = max 1 moment

/-- However many attempts fail, and whenever the run is cancelled, sending comes to an end, and it
delivers the datagram at most once. -/
theorem exists_governs_send (channel : Channel) (script : Script) (target : Endpoint)
    (datagram : Bytes) :
    ∃ attempts,
      script.Governs target datagram channel attempts
        ((channel.prepare script).send target datagram) := by
  by_cases ongoing : script.failing = 0 ∨ script.cancelledBy script.failing = false
  · obtain ⟨after, retries⟩ := channel.retries_of_ongoing ongoing target datagram
    refine ⟨script.failing + 1, ?_⟩
    rw [← retries.eq_send]
    exact
      { retries_iff := retries.iff
        attempts_eq := retries.attempts_eq
        sent_eq := retries.sent_eq
        isSent_iff := iff_of_true rfl ongoing
        attempts_of_sent := fun _ => rfl
        attempts_of_unsent := by rintro ⟨⟩ }
  · obtain ⟨blocked, cancelled⟩ := not_or.mp ongoing
    rw [Bool.not_eq_false] at cancelled
    obtain ⟨moment, member, early⟩ := Script.cancelledBy_iff.mp cancelled
    obtain ⟨after, retries⟩ := channel.retries_of_cancelled member blocked early target datagram
    refine ⟨max 1 moment, ?_⟩
    rw [← retries.eq_send]
    exact
      { retries_iff := retries.iff
        attempts_eq := retries.attempts_eq
        sent_eq := retries.sent_eq
        isSent_iff := iff_of_false (by rintro ⟨⟩) ongoing
        attempts_of_sent := by rintro ⟨⟩
        attempts_of_unsent := fun _ => ⟨moment, member, rfl⟩ }

/-- A cancellation during an attempt that succeeds comes too late, and is not noticed. -/
example (target : Endpoint) :
    ((prepare {} { failing := 5, moment := some 5 }).send target [0]).2 = false ∧
      ((prepare {} { failing := 5, moment := some 6 }).send target [0]).2 = true :=
  ⟨rfl, rfl⟩

end Channel
end AudioMulticast
