import AudioMulticast.Proofs.Wire.Attempts

/-!
# Datagrams that are sent

What is sent stays sent, and attempts to send a datagram only end without it if the run has been
cancelled.  A control message is attempted once, and may not be sent.
-/

namespace AudioMulticast

/-- Grouping keeps all items, in their order. -/
theorem flatten_inGroups {α : Type} (size : Nat) (items : List α) :
    (inGroups size items).flatten = items := by
  fun_induction inGroups size items with
  | case1 => rfl
  | case2 first rest ih =>
      rw [List.flatten_cons, ih, List.cons_append, List.take_append_drop]

theorem mem_of_mem_inGroups {α : Type} {size : Nat} {items group : List α} {item : α}
    (member : group ∈ inGroups size items) (inside : item ∈ group) : item ∈ items := by
  rw [← flatten_inGroups size items]
  exact List.mem_flatten.mpr ⟨group, member, inside⟩

namespace Channel

variable {channel after : Channel} {target : Endpoint} {datagram : Bytes} {attempts : Nat}
  {isSent : Bool} {result : Channel × Bool}

/-- A datagram is sent, unless the run has been cancelled. -/
theorem send_cases (channel : Channel) (target : Endpoint) (datagram : Bytes) :
    (channel.send target datagram).1.sent = channel.sent.push (target, datagram) ∨
      (channel.send target datagram).1.sent = channel.sent ∧
        (channel.send target datagram).1.cancelled = true := by
  obtain ⟨attempts, retries⟩ := channel.exists_retries target datagram
  have sent_eq := retries.sent_eq
  cases answer : (channel.send target datagram).2 with
  | true => exact .inl (by rwa [answer, if_pos rfl] at sent_eq)
  | false =>
      rw [answer, if_neg Bool.false_ne_true] at sent_eq
      exact .inr ⟨sent_eq, retries.cancelled_of_unsent answer⟩

theorem cancelled_of_attempt (cancelled : channel.cancelled = true)
    (attempted : channel.attempt target datagram = (after, isSent)) : after.cancelled = true := by
  obtain ⟨failures, rfl⟩ := eq_of_attempt attempted
  change (channel.cancelled || _) = true
  rw [cancelled, Bool.true_or]

theorem cancelled_send (cancelled : channel.cancelled = true) :
    (channel.send target datagram).1.cancelled = true := by
  obtain ⟨attempts, retries⟩ := channel.exists_retries target datagram
  generalize channel.send target datagram = result at retries
  induction retries with
  | sent succeeded => exact cancelled_of_attempt cancelled succeeded
  | gaveUp _ noticed => exact noticed
  | again failed _ _ ih => exact ih (cancelled_of_attempt cancelled failed)

theorem announce_cases (channel : Channel) (target : Endpoint) (message : ControlMessage) :
    (channel.announce target message).sent = channel.sent.push (target, message.encode) ∨
      (channel.announce target message).sent = channel.sent := by
  rw [announce, attempt]
  split
  · exact .inl rfl
  · exact .inl rfl
  · exact .inr rfl

/-- Of some control messages to one target, those are sent whose attempts do not fail. -/
theorem exists_sent_foldl_announce (channel : Channel) (target : Endpoint)
    (messages : List ControlMessage) :
    ∃ sent, (messages.foldl (fun channel message => channel.announce target message)
        channel).sent.toList = channel.sent.toList ++ sent ∧
      ∀ datagram ∈ sent, ∃ message ∈ messages, datagram = (target, message.encode) := by
  induction messages generalizing channel with
  | nil => exact ⟨[], (List.append_nil _).symm, by rintro _ ⟨⟩⟩
  | cons message messages ih =>
      obtain ⟨sent, sent_eq, announced⟩ := ih (channel.announce target message)
      have announced_later : ∀ datagram ∈ sent, ∃ other ∈ message :: messages,
          datagram = (target, other.encode) := by
        intro datagram member
        obtain ⟨other, inside, datagram_eq⟩ := announced datagram member
        exact ⟨other, List.mem_cons_of_mem _ inside, datagram_eq⟩
      rw [List.foldl_cons, sent_eq]
      rcases channel.announce_cases target message with delivered | failed
      · refine ⟨(target, message.encode) :: sent, ?_, ?_⟩
        · rw [delivered, Array.toList_push, List.append_assoc, List.singleton_append]
        · exact List.forall_mem_cons.mpr
            ⟨⟨message, List.mem_cons_self, rfl⟩, announced_later⟩
      · exact ⟨sent, by rw [failed], announced_later⟩

/-! ## Without a cancellation -/

/-- Whether the run that a channel belongs to has not been cancelled, and is not going to be. -/
structure Runs (channel : Channel) : Prop where
  cancelled_eq : channel.cancelled = false
  cancelDuring_eq : channel.cancelDuring = none

theorem Runs.count (runs : channel.Runs) : channel.count.Runs where
  cancelled_eq := by simp [Channel.count, runs.cancelled_eq, runs.cancelDuring_eq]
  cancelDuring_eq := runs.cancelDuring_eq

theorem Runs.attempt (runs : channel.Runs)
    (attempted : channel.attempt target datagram = (after, isSent)) : after.Runs := by
  obtain ⟨failures, rfl⟩ := eq_of_attempt attempted
  exact ⟨runs.count.cancelled_eq, runs.count.cancelDuring_eq⟩

theorem Runs.retries (runs : channel.Runs)
    (retries : Retries target datagram channel attempts result) :
    result.1.Runs ∧ result.2 = true := by
  induction retries with
  | sent succeeded => exact ⟨runs.attempt succeeded, rfl⟩
  | gaveUp failed cancelled =>
      cases cancelled.symm.trans (runs.attempt failed).cancelled_eq
  | again failed _ _ ih => exact ih (runs.attempt failed)

/-- However many attempts fail, a datagram is sent at last. -/
theorem Runs.send (runs : channel.Runs) (target : Endpoint) (datagram : Bytes) :
    (channel.send target datagram).1.Runs ∧
      (channel.send target datagram).1.sent = channel.sent.push (target, datagram) := by
  obtain ⟨attempts, retries⟩ := channel.exists_retries target datagram
  obtain ⟨still_runs, answer⟩ := runs.retries retries
  have sent_eq := retries.sent_eq
  rw [answer, if_pos rfl] at sent_eq
  exact ⟨still_runs, sent_eq⟩

end Channel
end AudioMulticast
