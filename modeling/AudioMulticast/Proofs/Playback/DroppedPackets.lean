import AudioMulticast.Proofs.Playback.ReceptionSteps

/-!
# Packets that are dropped

A packet is dropped if it is ignored with its session, or refused by the window.  Either is found out
before anything is changed, so dropped packets may be left out of a run, or be inserted into it at any
place, without anybody noticing.
-/

namespace AudioMulticast
namespace Playback

/-- Whether a packet is of no use to a window: it has no payload or not the length of the others, it
is misaligned, or its turn has passed. -/
def Window.Refuses (window : Window) (id : PacketId) (payload : Bytes) : Prop :=
  payload = [] ∨ ¬payload.length ∣ id.val ∨
    ∃ session ∈ window.session, payload.length ≠ session.payloadLength ∨ id.val < session.front

instance (window : Window) (id : PacketId) (payload : Bytes) :
    Decidable (window.Refuses id payload) :=
  inferInstanceAs (Decidable (_ ∨ _ ∨ _))

/-- Whether a packet is dropped: all are while the flag is raised, and otherwise those of a lower
session, and those of the current one that the window refuses. -/
def Reception.Drops (reception : Reception) (packet : DataPacket) : Prop :=
  reception.tuning.restart = true ∨ packet.session < reception.tuning.session ∨
    packet.session = reception.tuning.session ∧ reception.window.Refuses packet.id packet.payload

instance (reception : Reception) (packet : DataPacket) : Decidable (reception.Drops packet) :=
  inferInstanceAs (Decidable (_ ∨ _ ∨ _))

/-! ## A packet that is dropped -/

/-- A packet whose turn has passed does not start playback: the packets before the cursor had
arrived, or had been given up, when playback started. -/
theorem SessionJournal.Valid.startAt_of_lt_next {journal : SessionJournal} {size : Nat}
    (valid : journal.Valid size) {id : PacketId} (aligned : journal.length ∣ id.val)
    (passed : id.val < journal.next) : journal.window.startAt id = journal.window := by
  have le_top := valid.le_top_of_lt_next aligned passed
  have started_eq : (journal.isReadable || decide (journal.threshold ≤ id.val)) =
      journal.isReadable := by
    simp only [SessionJournal.isReadable, Bool.or_eq_left_iff_imp, decide_eq_true_eq]
    exact fun reached => reached.trans le_top
  exact congrArg (fun started => { journal.window with started }) started_eq

theorem Journal.Valid.write_of_refuses {journal : Journal} (valid : journal.Valid) {id : PacketId}
    {payload : Bytes} (refuses : journal.window.Refuses id payload) :
    (∃ rejection, journal.window.write id payload = .ok (.error rejection)) ∨
      journal.window.write id payload = .ok (.ok (journal.window, [])) := by
  cases judged : journal.window.rejection? id payload with
  | some rejection => exact .inl ⟨rejection, by rw [Window.write, judged]⟩
  | none =>
      right
      have accepted := (valid.window_rejection? id payload).symm.trans judged
      cases found : journal.session with
      | none =>
          obtain ⟨payload_ne, aligned⟩ := (accepted_iff_of_none found).mp accepted
          have empty : journal.window.session = none := by rw [window, found, Option.map_none]
          rcases refuses with payload_eq | misaligned | ⟨session, member, -⟩
          · exact absurd payload_eq payload_ne
          · exact absurd aligned misaligned
          · simp [empty] at member
      | some session =>
          obtain ⟨length_eq, aligned⟩ := (accepted_iff_of_some found).mp accepted
          have session_valid := valid.session_valid session found
          have open_eq : journal.window.session = some session.window := by
            rw [window, found, Option.map_some]
          have passed : id.val < session.next := by
            rcases refuses with rfl | misaligned | ⟨other, member, different | passed⟩
            · exact absurd length_eq.symm session_valid.length_pos.ne'
            · exact absurd (length_eq ▸ aligned) misaligned
            · cases open_eq.symm.trans member
              exact absurd length_eq different
            · cases open_eq.symm.trans member
              exact passed
          have placed : session.window.place id payload = .ok (session.window, []) :=
            if_pos passed
          simp only [Window.write, judged, Window.store, open_eq, placed, Overflow.ok_bind,
            session_valid.startAt_of_lt_next aligned passed]
          rw [← open_eq]
          rfl

variable {reception : Reception} {journal : Journal} {packet : DataPacket}

/-- A packet that is dropped leaves the reception as it is. -/
theorem Reception.Follows.receive_of_drops (follows : reception.Follows journal)
    (drops : reception.Drops packet) (now : Nat) :
    reception.receive now packet = .ok (reception, []) := by
  rcases reception.tuning.screen_cases packet.session with
    ⟨lowered, current, screen_eq⟩ | ⟨lowered, higher, screen_eq⟩ | ⟨-, screen_eq⟩
  · have refuses : reception.window.Refuses packet.id packet.payload := by
      rcases drops with raised | lower | ⟨-, refuses⟩
      · simp [lowered] at raised
      · exact absurd current lower.ne
      · exact refuses
    rw [follows.window_eq] at refuses
    have screened : reception.screen packet.session = (reception, false) := by
      rw [Reception.screen, screen_eq]
    simp only [Reception.receive, screened, Reception.store, follows.window_eq]
    rcases follows.valid.write_of_refuses refuses with ⟨rejection, rejected⟩ | unchanged
    · rw [rejected]
      rfl
    · rw [unchanged, ← follows.window_eq]
      rfl
  · rcases drops with raised | lower | ⟨current, -⟩
    · simp [lowered] at raised
    · exact absurd lower higher.not_gt
    · exact absurd current higher.ne'
  · simp only [Reception.receive, Reception.screen, screen_eq]

namespace TimedReception

variable {timed : TimedReception} {event : ReceptionEvent}

/-- It is told that no packets are missing, and nothing else happens. -/
theorem perform_of_drops (follows : timed.reception.Follows journal)
    (arrives : event.packet? = some packet) (drops : timed.reception.Drops packet) :
    timed.perform event = .ok (timed, .revealed []) := by
  have received := follows.receive_of_drops drops timed.now
  cases event with
  | datagram bytes =>
      cases decoded : DataPacket.decode bytes with
      | error error => simp [ReceptionEvent.packet?, decoded, Except.toOption] at arrives
      | ok sent =>
          simp only [ReceptionEvent.packet?, decoded, Except.toOption, Option.some_inj] at arrives
          subst arrives
          simp only [perform, Reception.receiveDatagram, decoded, received]
          rfl
  | receive sent =>
      cases arrives
      rw [perform, received]
      rfl
  | _ => cases arrives

/-! ## Runs into which packets are inserted -/

/-- What a reception answers to some events, up to the first overflow. -/
def answers : TimedReception → List ReceptionEvent → List (Except Overflow ReceptionAnswer)
  | _, [] => []
  | timed, event :: events =>
      match timed.perform event with
      | .ok (after, answer) => .ok answer :: after.answers events
      | .error overflow => [.error overflow]

end TimedReception

/-- An event of a run, which may have been inserted into it. -/
structure MarkedEvent where
  event : ReceptionEvent
  /-- Whether the event is not in the run without insertions. -/
  isInserted : Bool
  deriving DecidableEq

namespace TimedReception

/-- The events that have not been inserted. -/
def original (events : List MarkedEvent) : List ReceptionEvent :=
  (events.filter fun marked => !marked.isInserted).map MarkedEvent.event

/-- What a reception answers to the events that have not been inserted, in a run of all events. -/
def originalAnswers (timed : TimedReception) (events : List MarkedEvent) :
    List (Except Overflow ReceptionAnswer) :=
  (events.zip (timed.answers (events.map MarkedEvent.event))).filterMap fun answered =>
    if answered.1.isInserted then none else some answered.2

/-- Whether nothing has been inserted into a run but packets that are dropped there. -/
def OnlyDropped : TimedReception → List MarkedEvent → Prop
  | _, [] => True
  | timed, marked :: events =>
      (marked.isInserted = true → ∃ packet ∈ marked.event.packet?, timed.reception.Drops packet) ∧
        match timed.perform marked.event with
        | .ok (after, _) => after.OnlyDropped events
        | .error _ => True

instance decidableOnlyDropped :
    ∀ (timed : TimedReception) (events : List MarkedEvent), Decidable (timed.OnlyDropped events)
  | _, [] => .isTrue trivial
  | timed, marked :: events =>
      have : Decidable
          (match timed.perform marked.event with
          | .ok (after, _) => after.OnlyDropped events
          | .error _ => True) :=
        match timed.perform marked.event with
        | .ok (after, _) => decidableOnlyDropped after events
        | .error _ => .isTrue trivial
      inferInstanceAs (Decidable (_ ∧ _))

variable {timed : TimedReception} {marked : MarkedEvent} {events front back : List MarkedEvent}

theorem originalAnswers_cons (timed : TimedReception) (marked : MarkedEvent)
    (events : List MarkedEvent) :
    timed.originalAnswers (marked :: events) =
      match timed.perform marked.event with
      | .ok (after, answer) =>
          (if marked.isInserted then [] else [.ok answer]) ++ after.originalAnswers events
      | .error overflow => if marked.isInserted then [] else [.error overflow] := by
  rw [originalAnswers, List.map_cons, answers]
  cases timed.perform marked.event with
  | ok result =>
      obtain ⟨after, answer⟩ := result
      simp only [List.zip_cons_cons, List.filterMap_cons]
      split_ifs
      all_goals rfl
  | error overflow =>
      simp only [List.zip_cons_cons, List.zip_nil_right, List.filterMap_cons, List.filterMap_nil]
      split_ifs
      all_goals rfl

/-- With and without the inserted packets, the events of the run are answered alike, and the state at
its end is the same. -/
theorem originalAnswers_eq_answers (follows : timed.reception.Follows journal)
    (dropped : timed.OnlyDropped events) :
    timed.originalAnswers events = timed.answers (original events) ∧
      timed.run (events.map MarkedEvent.event) = timed.run (original events) := by
  induction events generalizing timed journal with
  | nil => exact ⟨rfl, rfl⟩
  | cons marked events ih =>
      obtain ⟨drops, later⟩ := dropped
      rw [originalAnswers_cons, List.map_cons, run]
      cases inserted : marked.isInserted with
      | true =>
          obtain ⟨packet, arrives, drops⟩ := drops inserted
          have performed := perform_of_drops follows arrives drops
          have original_eq : original (marked :: events) = original events := by
            simp [original, inserted]
          rw [performed] at later ⊢
          rw [original_eq]
          exact ih follows later
      | false =>
          have original_eq : original (marked :: events) = marked.event :: original events := by
            simp [original, inserted]
          rw [original_eq, answers, run]
          cases performed : timed.perform marked.event with
          | ok result =>
              obtain ⟨after, answer⟩ := result
              rw [performed] at later
              obtain ⟨result, after_follows, -⟩ := exists_effect follows performed
              obtain ⟨answers_eq, run_eq⟩ := ih after_follows later
              exact ⟨congrArg (List.cons _) answers_eq, run_eq⟩
          | error overflow => exact ⟨rfl, rfl⟩

/-- An inserted packet finds a state in which it is dropped. -/
theorem exists_drops_of_onlyDropped {reached : TimedReception}
    (follows : timed.reception.Follows journal)
    (dropped : timed.OnlyDropped (front ++ marked :: back)) (inserted : marked.isInserted = true)
    (done : timed.run (front.map MarkedEvent.event) = .ok reached) :
    ∃ journal packet, reached.reception.Follows journal ∧ marked.event.packet? = some packet ∧
      reached.reception.Drops packet := by
  induction front generalizing timed journal with
  | nil =>
      cases done
      obtain ⟨packet, arrives, drops⟩ := dropped.1 inserted
      exact ⟨journal, packet, follows, arrives, drops⟩
  | cons first front ih =>
      obtain ⟨⟨after, answer⟩, performed, done⟩ := Overflow.bind_eq_ok_iff.mp done
      obtain ⟨-, later⟩ := dropped
      rw [performed] at later
      obtain ⟨result, after_follows, -⟩ := exists_effect follows performed
      exact ih after_follows later done

/-- Packets that are inserted into a run wherever they are dropped change none of the answers to the
events of the run.  Each of them reveals no packets as missing, and leaves everything as it is. -/
theorem answers_unchanged_by_dropped (size : Word) (interval : Nat)
    (dropped : (new size.val interval).OnlyDropped events) :
    (new size.val interval).originalAnswers events =
        (new size.val interval).answers (original events) ∧
      (new size.val interval).run (events.map MarkedEvent.event) =
        (new size.val interval).run (original events) ∧
      ∀ front marked back reached, events = front ++ marked :: back → marked.isInserted = true →
        (new size.val interval).run (front.map MarkedEvent.event) = .ok reached →
          reached.perform marked.event = .ok (reached, .revealed []) := by
  have follows : (new size.val interval).reception.Follows { size := size.val } :=
    Reception.follows_new size interval
  obtain ⟨answers_eq, run_eq⟩ := originalAnswers_eq_answers follows dropped
  refine ⟨answers_eq, run_eq, ?_⟩
  rintro front marked back reached rfl inserted done
  obtain ⟨journal, packet, reached_follows, arrives, drops⟩ :=
    exists_drops_of_onlyDropped follows dropped inserted done
  exact perform_of_drops reached_follows arrives drops

/-- A run with a packet that is dropped for every reason there is. -/
def noisy : List MarkedEvent :=
  let packet (session id : Word) (payload : Bytes) : ReceptionEvent :=
    .receive { session, id, payload }
  [⟨packet 7 0 [1, 1], false⟩, ⟨packet 9 0 [9], true⟩, ⟨.collect, false⟩, ⟨packet 7 5 [], true⟩,
    ⟨packet 7 0 [1, 1], false⟩, ⟨packet 3 2 [9, 9], true⟩, ⟨packet 7 4 [3, 3], false⟩,
    ⟨packet 7 0 [1, 1], true⟩, ⟨packet 7 6 [9], true⟩, ⟨packet 7 3 [9, 9], true⟩,
    ⟨packet 7 2 [], true⟩, ⟨.wait 250, false⟩, ⟨.round [], false⟩, ⟨packet 7 2 [2, 2], false⟩,
    ⟨.play, false⟩]

theorem answers_unchanged_by_dropped_of_noisy :
    (new (4 : Word).val 250).OnlyDropped noisy ∧
      (new (4 : Word).val 250).originalAnswers noisy =
        [.ok (.revealed []), .ok (.collected none true), .ok (.revealed []), .ok (.revealed [2]),
          .ok .done, .ok (.round ⟨[2], []⟩), .ok (.revealed []), .ok (.played (some [2, 2]))] := by
  have dropped : (new (4 : Word).val 250).OnlyDropped noisy := by
    decide +kernel
  refine ⟨dropped, (answers_unchanged_by_dropped 4 250 dropped).1.trans ?_⟩
  decide +kernel

end TimedReception
end Playback
end AudioMulticast
