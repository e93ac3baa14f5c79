import AudioMulticast.Proofs.Stations.RosterHistory

/-!
# When the preferred station takes over

A reply takes the selection away from a station that is still held only if it is one of the preferred
station, and the roster does not hold that.  The roster forgets stations that fall silent, so the
preferred station takes over when it is heard of for the first time, and again each time it comes
back after a silence.  As long as it is not silent for longer than the timeout, a listener who has
switched away from it is left alone.
-/

namespace AudioMulticast
namespace Roster

/-- Whether a reply takes the selection away from a station that is still held. -/
def Displaces (roster : Roster) (now : Nat) (station : Station) : Prop :=
  ∃ name, roster.selected = some name ∧ holds (roster.evict now).stations name = true ∧
    (roster.update now station).1.selected ≠ some name

/-- Whether no update of a name is among some calls. -/
def IsUnheardOf (calls : List RosterCall) (name : String) : Prop :=
  ∀ call ∈ calls, call.request.record? name = none

/-- Whether the most recent update of a name is older than the timeout at some time. -/
def HasFallenSilent (timeout : Nat) (calls : List RosterCall) (time : Nat) (name : String) : Prop :=
  ∃ station, latest calls name = some station ∧ station.lastReply + timeout < time

/-- Whether a call leaves a selected name alone: the name is listed, the listener does not move the
selection, and the preferred station does not come back. -/
structure LeavesAlone (timeout : Nat) (preferred : String) (calls : List RosterCall)
    (call : RosterCall) (name : String) : Prop where
  isListed : IsListed timeout calls call.time name
  not_move : ∀ direction, call.request ≠ .move direction
  known : ∀ station, call.request = .update station → station.name = preferred →
    IsListed timeout calls call.time preferred

variable {timeout now : Nat} {preferred name : String} {roster : Roster}
  {calls later : List RosterCall} {call : RosterCall} {station : Station}

theorem not_isListed_iff :
    ¬IsListed timeout calls now name ↔
      IsUnheardOf calls name ∨ HasFallenSilent timeout calls now name := by
  rw [IsListed, HasFallenSilent]
  cases found : latest calls name with
  | none =>
      refine iff_of_true (by rintro ⟨_, ⟨⟩, _⟩) (.inl fun call member => ?_)
      exact List.findSome?_eq_none_iff.mp found call (List.mem_reverse.mpr member)
  | some station =>
      have heard : ¬IsUnheardOf calls name := by
        intro unheard
        have absent : latest calls name = none :=
          List.findSome?_eq_none_iff.mpr fun call member =>
            unheard call (List.mem_reverse.mp member)
        cases found.symm.trans absent
      rw [or_iff_right heard]
      simp only [Option.some.injEq, exists_eq_left', not_le]

/-! ## One call -/

theorem selected_evict_of_holds (selected : roster.selected = some name)
    (held : holds (roster.evict now).stations name = true) :
    (roster.evict now).selected = some name := by
  rw [evict, selected, reselect, Option.bind_some]
  exact if_pos held

theorem displaces_iff :
    roster.Displaces now station ↔
      roster.preferred = some station.name ∧
        holds (roster.evict now).stations station.name = false ∧
          ∃ name, roster.selected = some name ∧
            holds (roster.evict now).stations name = true := by
  constructor
  · rintro ⟨name, selected, held, moved⟩
    have left := selected_evict_of_holds selected held
    rcases (roster.evict now).selectionWith_cases station with
      ⟨-, nobody | ⟨isPreferred, isNew⟩⟩ | ⟨same, -, -⟩
    · cases left.symm.trans nobody
    · exact ⟨isPreferred, isNew, name, selected, held⟩
    · exact absurd (same.trans left) moved
  · rintro ⟨isPreferred, isNew, name, selected, held⟩
    refine ⟨name, selected, held, fun kept => ?_⟩
    have left := selected_evict_of_holds selected held
    rcases (roster.evict now).selectionWith_cases station with ⟨chosen, -⟩ | ⟨-, -, known⟩
    · obtain rfl := Option.some.inj (chosen.symm.trans kept)
      exact Bool.false_ne_true (isNew.symm.trans held)
    · exact Bool.false_ne_true (isNew.symm.trans (known isPreferred))

/-- A held station stays selected if the listener does not move the selection and the reply of no
other station displaces it. -/
theorem selected_perform_of_holds (selected : roster.selected = some name)
    (held : holds (roster.evict call.time).stations name = true)
    (not_move : ∀ direction, call.request ≠ .move direction)
    (known : ∀ station, call.request = .update station → roster.preferred = some station.name →
      holds (roster.evict call.time).stations station.name = true) :
    (roster.perform call).1.selected = some name := by
  have left := selected_evict_of_holds selected held
  obtain ⟨time, request⟩ := call
  cases request with
  | update station =>
      by_contra moved
      obtain ⟨isPreferred, isNew, -⟩ := displaces_iff.mp ⟨name, selected, held, moved⟩
      exact Bool.false_ne_true (isNew.symm.trans (known station rfl isPreferred))
  | move direction => exact absurd rfl (not_move direction)
  | current => exact left
  | names => exact left
  | menu => exact left

/-! ## Runs -/

/-- What the preferred station does to the selection after some calls. -/
structure PrefersReturning (timeout : Nat) (preferred : String) (calls : List RosterCall) :
    Prop where
  /-- It takes over when it is heard of for the first time, and when it comes back. -/
  displaces_iff : ∀ {now : Nat} {station : Station}, (∀ call ∈ calls, call.time ≤ now) →
    (((new timeout (some preferred)).run calls).Displaces now station ↔
      (station.name = preferred ∧
        (IsUnheardOf calls preferred ∨ HasFallenSilent timeout calls now preferred)) ∧
      ∃ name, ((new timeout (some preferred)).run calls).selected = some name ∧
        IsListed timeout calls now name)
  /-- The selection stays where it is as long as calls leave it alone. -/
  stays : ∀ {later : List RosterCall} {name : String},
    ((calls ++ later).Pairwise fun first second => first.time ≤ second.time) →
    ((new timeout (some preferred)).run calls).selected = some name →
    (∀ between call rest, later = between ++ call :: rest →
      LeavesAlone timeout preferred (calls ++ between) call name) →
    ((new timeout (some preferred)).run (calls ++ later)).selected = some name

theorem holds_evict_run (timeout : Nat) (preferred : Option String)
    (ordered : calls.Pairwise fun first second => first.time ≤ second.time)
    (isLater : ∀ call ∈ calls, call.time ≤ now) (name : String) :
    holds (((new timeout preferred).run calls).evict now).stations name = true ↔
      IsListed timeout calls now name := by
  have held_iff := (reflects_run timeout preferred ordered).holds_evict isLater name
  rwa [((new timeout preferred).run_settings calls).1] at held_iff

theorem selected_run_append
    (ordered : (calls ++ later).Pairwise fun first second => first.time ≤ second.time)
    (selected : ((new timeout (some preferred)).run calls).selected = some name)
    (leavesAlone : ∀ between call rest, later = between ++ call :: rest →
      LeavesAlone timeout preferred (calls ++ between) call name) :
    ((new timeout (some preferred)).run (calls ++ later)).selected = some name := by
  induction later using List.reverseRecOn with
  | nil => rwa [List.append_nil]
  | append_singleton later call ih =>
      rw [← List.append_assoc] at ordered ⊢
      have before := (List.pairwise_append.mp ordered).1
      have holds_iff_isListed :=
        holds_evict_run timeout (some preferred) before (forall_time_le_of_concat ordered)
      have last := leavesAlone later call [] rfl
      have kept := ih before fun between other rest cut =>
        leavesAlone between other (rest ++ [call]) (by rw [cut, List.append_assoc, List.cons_append])
      rw [run_concat]
      refine selected_perform_of_holds kept ((holds_iff_isListed name).mpr last.isListed)
        last.not_move fun station update isPreferred => (holds_iff_isListed station.name).mpr ?_
      rw [((new timeout (some preferred)).run_settings (calls ++ later)).2] at isPreferred
      obtain rfl := Option.some.inj isPreferred
      exact last.known station update rfl

/-- In every run the preferred station takes over from a station that is still held when it is heard
of for the first time or comes back after a silence, and the selection is left alone otherwise. -/
theorem prefersReturning_run (timeout : Nat) (preferred : String)
    (ordered : calls.Pairwise fun first second => first.time ≤ second.time) :
    PrefersReturning timeout preferred calls where
  displaces_iff := by
    intro now station isLater
    have holds_iff_isListed := holds_evict_run timeout (some preferred) ordered isLater
    rw [displaces_iff, ((new timeout (some preferred)).run_settings calls).2]
    simp only [← not_isListed_iff, ← holds_iff_isListed, Bool.not_eq_true]
    constructor
    · rintro ⟨isPreferred, isNew, displaced⟩
      obtain rfl := Option.some.inj isPreferred
      exact ⟨⟨rfl, isNew⟩, displaced⟩
    · rintro ⟨⟨rfl, isNew⟩, displaced⟩
      exact ⟨rfl, isNew, displaced⟩
  stays := selected_run_append

/-- The reply of a station. -/
def replyOf (name : String) (lastReply : Nat) : Station :=
  { name
    control := { address := ⟨10, 0, 0, 1⟩, port := 35830 }
    stream := { address := ⟨239, 0, 0, 1⟩, port := 2000 }
    lastReply }

/-- The listener switches away from the preferred station, which then falls silent. -/
def switchedAway : List RosterCall :=
  [⟨0, .update (replyOf "a" 0)⟩, ⟨0, .update (replyOf "p" 0)⟩, ⟨0, .move .up⟩,
    ⟨15000, .update (replyOf "a" 15000)⟩, ⟨20001, .current⟩]

/-- When the preferred station comes back, it displaces the station that the listener has chosen. -/
theorem prefersReturning_of_switchedAway :
    (switchedAway.Pairwise fun first second => first.time ≤ second.time) ∧
      ((new 20000 (some "p")).run switchedAway).selected = some "a" ∧
      ((new 20000 (some "p")).run
        (switchedAway ++ [⟨20001, .update (replyOf "p" 20001)⟩])).selected = some "p" ∧
      PrefersReturning 20000 "p" switchedAway := by
  have ordered : switchedAway.Pairwise fun first second => first.time ≤ second.time := by decide
  exact ⟨ordered, by decide +kernel, by decide +kernel, prefersReturning_run 20000 "p" ordered⟩

/-- The preferred station does not only take over when it is heard of for the first time. -/
theorem not_forall_displaces_isUnheardOf :
    ¬∀ (timeout : Nat) (preferred : String) (calls : List RosterCall) (now : Nat)
        (station : Station),
      (calls.Pairwise fun first second => first.time ≤ second.time) →
        (∀ call ∈ calls, call.time ≤ now) →
          ((new timeout (some preferred)).run calls).Displaces now station →
            station.name = preferred ∧ IsUnheardOf calls preferred := by
  intro once
  have displaced :
      ((new 20000 (some "p")).run switchedAway).Displaces 20001 (replyOf "p" 20001) :=
    ⟨"a", by decide +kernel, by decide +kernel, by decide +kernel⟩
  have unheard := (once 20000 "p" switchedAway 20001 _ (by decide) (by decide) displaced).2
  have heard := unheard ⟨0, .update (replyOf "p" 0)⟩ (by decide)
  exact absurd heard (by decide)

end Roster
end AudioMulticast
