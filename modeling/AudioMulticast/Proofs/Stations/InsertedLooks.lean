import AudioMulticast.Proofs.Stations.RosterCalls

/-!
# Looking at a roster

Every request drops the stations that have been silent for too long, and the selection moves on if
it is one of them.  A run in which the roster is looked at early and often therefore goes through
other rosters than a run without these looks: the selection may hop over several stations that fall
silent one after another, where otherwise it moves once, to one that is left.  Both come to the
same, and all other requests are answered alike.
-/

namespace AudioMulticast

/-- A call of a run, which may have been inserted into it. -/
structure Visit where
  call : RosterCall
  /-- Whether the call is not in the run without insertions. -/
  isInserted : Bool
  deriving DecidableEq

namespace Roster

/-- The calls that have not been inserted. -/
def original (visits : List Visit) : List RosterCall :=
  (visits.filter fun visit => !visit.isInserted).map Visit.call

/-- What a roster answers to the calls that have not been inserted, in a run of all calls. -/
def originalAnswers (roster : Roster) (visits : List Visit) : List RosterAnswer :=
  (visits.zip (roster.answers (visits.map Visit.call))).filterMap fun answered =>
    if answered.1.isInserted then none else some answered.2

theorem originalAnswers_cons (roster : Roster) (visit : Visit) (visits : List Visit) :
    roster.originalAnswers (visit :: visits) =
      (if visit.isInserted then [] else [(roster.perform visit.call).2]) ++
        (roster.perform visit.call).1.originalAnswers visits := by
  rw [originalAnswers, List.map_cons, answers, List.zip_cons_cons, List.filterMap_cons]
  split_ifs
  all_goals rfl

/-- Rosters of which the same is left whenever a call is made answer the calls that have not been
inserted alike. -/
theorem originalAnswers_eq_answers {left right : Roster} (wellFormed : left.WellFormed)
    {visits : List Visit}
    (ordered : (visits.map Visit.call).Pairwise fun first second => first.time ≤ second.time)
    (looks : ∀ visit ∈ visits, visit.isInserted = true → visit.call.request.isLook = true)
    (same : ∀ visit ∈ visits, left.evict visit.call.time = right.evict visit.call.time) :
    left.originalAnswers visits = right.answers (original visits) := by
  induction visits generalizing left right with
  | nil => rfl
  | cons visit visits ih =>
      rw [List.map_cons, List.pairwise_cons] at ordered
      obtain ⟨later, ordered⟩ := ordered
      obtain ⟨look, looks⟩ := List.forall_mem_cons.mp looks
      obtain ⟨same_now, same_later⟩ := List.forall_mem_cons.mp same
      rw [originalAnswers_cons, original]
      cases inserted : visit.isInserted with
      | true =>
          have left_eq := @perform_look left visit.call (look inserted)
          rw [List.filter_cons_of_neg (by simp only [inserted, Bool.not_true, Bool.false_eq_true,
            not_false_eq_true]), if_pos rfl, List.nil_append]
          refine ih (wellFormed.perform visit.call) ordered looks fun other member => ?_
          have le := later other.call (List.mem_map_of_mem member)
          rw [left_eq, evict_evict wellFormed.ascending le, same_later other member]
      | false =>
          have performed_eq := perform_congr same_now
          rw [List.filter_cons_of_pos (by simp only [inserted, Bool.not_false]), List.map_cons,
            answers, performed_eq]
          refine congrArg _ (ih ?_ ordered looks fun _ _ => rfl)
          exact performed_eq ▸ wellFormed.perform visit.call

/-- Looks that are inserted into a run, at any places and times at which the clock does not go back,
change none of the answers to the calls of the run. -/
theorem answers_unchanged_by_looks (timeout : Nat) (preferred : Option String)
    {visits : List Visit}
    (ordered : (visits.map Visit.call).Pairwise fun first second => first.time ≤ second.time)
    (looks : ∀ visit ∈ visits, visit.isInserted = true → visit.call.request.isLook = true) :
    (new timeout preferred).originalAnswers visits =
      (new timeout preferred).answers (original visits) :=
  originalAnswers_eq_answers (wellFormed_new timeout preferred) ordered looks fun _ _ => rfl

/-- Two stations fall silent one after another before the selection is moved, and the menu is looked
at in between. -/
def hops : List Visit :=
  let reply (name : String) (lastReply : Nat) : Station :=
    { name
      control := { address := ⟨10, 0, 0, 1⟩, port := 35830 }
      stream := { address := ⟨239, 0, 0, 1⟩, port := 25830 }
      lastReply }
  [{ call := ⟨0, .update (reply "B" 0)⟩, isInserted := false },
    { call := ⟨4, .update (reply "C" 4)⟩, isInserted := false },
    { call := ⟨8, .update (reply "A" 8)⟩, isInserted := false },
    { call := ⟨21, .menu⟩, isInserted := true },
    { call := ⟨25, .names⟩, isInserted := true },
    { call := ⟨26, .current⟩, isInserted := false }]

/-- With the looks the selection moves from `B` over `C` to `A`, and without them at once. -/
theorem answers_unchanged_by_looks_of_hops :
    ((hops.map Visit.call).Pairwise fun first second => first.time ≤ second.time) ∧
      (∀ visit ∈ hops, visit.isInserted = true → visit.call.request.isLook = true) ∧
      ((new 20 none).run ((hops.map Visit.call).take 4)).selected = some "C" ∧
      ((new 20 none).run ((original hops).take 3)).selected = some "B" ∧
      (new 20 none).originalAnswers hops = (new 20 none).answers (original hops) := by
  have ordered : (hops.map Visit.call).Pairwise fun first second => first.time ≤ second.time := by
    decide
  have looks : ∀ visit ∈ hops, visit.isInserted = true → visit.call.request.isLook = true := by
    decide
  exact ⟨ordered, looks, by decide +kernel, by decide +kernel,
    answers_unchanged_by_looks 20 none ordered looks⟩

end Roster
end AudioMulticast
