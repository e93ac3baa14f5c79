import AudioMulticast.Menu.Dial
import AudioMulticast.Proofs.Stations.RosterCalls
import AudioMulticast.Proofs.Stations.TuningSteps
import Mathlib.Data.List.Basic
import Mathlib.Logic.Relation

/-!
# A dial that several tasks share

Replies, lookups and keys have the roster answer the selected station, and tune to that answer in a
second step.  Other tasks may take steps in between, so an answer may be overtaken by a later one.
Drawing the menu drops silent stations as well, but nothing is tuned to afterwards.

When the last answer of the roster has been tuned to, the station that is played is the one that is
marked in the menu, unless drawing the menu has dropped it.
-/

namespace AudioMulticast
namespace Menu

/-- A dial, the clock, and what the roster has answered. -/
structure SharedDial where
  dial : Dial
  now : Nat
  /-- What the roster has answered so far, by numbers.  The first entry stands for the beginning,
  when no station is known. -/
  answers : List (Option Station)
  /-- Numbers of the answers that tasks are about to tune to. -/
  pending : List Nat
  /-- Number of the answer that was tuned to last. -/
  tuned : Nat

namespace SharedDial

/-- A dial that nobody has used so far. -/
def new (timeout : Nat) (preferred : Option String) : SharedDial :=
  { dial := { roster := .new timeout preferred }
    now := 0
    answers := [none]
    pending := []
    tuned := 0 }

/-- A task has got an answer from the roster, and is about to tune to it. -/
def ask (shared : SharedDial) (answered : Roster × Option Station) : SharedDial :=
  { shared with
    dial := { shared.dial with roster := answered.1 }
    answers := shared.answers ++ [answered.2]
    pending := shared.answers.length :: shared.pending }

/-- A task tunes to an answer. -/
def settle (shared : SharedDial) (number : Nat) (station : Option Station) : SharedDial :=
  { shared with
    dial := shared.dial.tune station
    pending := shared.pending.erase number
    tuned := number }

/-- The menu is drawn. -/
def draw (shared : SharedDial) : SharedDial :=
  { shared with dial := shared.dial.refresh shared.now }

/-- Time passes. -/
def wait (shared : SharedDial) (duration : Nat) : SharedDial :=
  { shared with now := shared.now + duration }

/-- What a task can do next, or the clock. -/
inductive Step : SharedDial → SharedDial → Prop where
  /-- A station has replied. -/
  | reply {shared : SharedDial} {station : Station} (replied : station.lastReply ≤ shared.now) :
      Step shared (shared.ask (shared.dial.roster.update shared.now station))
  /-- A listener moves the selection. -/
  | press (shared : SharedDial) (direction : Direction) :
      Step shared (shared.ask (shared.dial.roster.move shared.now direction))
  /-- A lookup asks for the selected station. -/
  | look (shared : SharedDial) :
      Step shared (shared.ask (shared.dial.roster.current shared.now))
  /-- A task tunes to what the roster has answered to it. -/
  | tune {shared : SharedDial} {number : Nat} {station : Option Station}
      (due : number ∈ shared.pending) (answered : shared.answers[number]? = some station) :
      Step shared (shared.settle number station)
  /-- The menu is drawn. -/
  | draw (shared : SharedDial) :
      Step shared shared.draw
  /-- Time passes. -/
  | wait (shared : SharedDial) (duration : Nat) :
      Step shared (shared.wait duration)

/-- What identifies the station that is played. -/
def played (shared : SharedDial) : Option (String × Endpoint × Endpoint) :=
  shared.dial.tuning.station.map Station.identity

/-- What identifies the station that is marked in the menu. -/
def marked (shared : SharedDial) : Option (String × Endpoint × Endpoint) :=
  shared.dial.roster.selectedStation.map Station.identity

/-- Whether the last answer of the roster is the one that was tuned to last. -/
def IsSettled (shared : SharedDial) : Prop :=
  shared.tuned + 1 = shared.answers.length

/-- Whether the station that is played is still known. -/
def IsPlayedKnown (shared : SharedDial) : Prop :=
  ∀ station, shared.dial.tuning.station = some station →
    Roster.holds shared.dial.roster.stations station.name = true

variable {shared after : SharedDial}

/-! ## Tasks without an interruption -/

theorem getElem?_ask (shared : SharedDial) (answered : Roster × Option Station) :
    (shared.ask answered).answers[shared.answers.length]? = some answered.2 := by
  rw [ask, List.getElem?_append_right le_rfl, Nat.sub_self, List.getElem?_cons_zero]

/-- A task that asks the roster and tunes to the answer without an interruption. -/
theorem reflTransGen_ask {answered : Roster × Option Station}
    (step : Step shared (shared.ask answered)) :
    Relation.ReflTransGen Step shared
      { shared with
        dial := { shared.dial with roster := answered.1 }.tune answered.2
        answers := shared.answers ++ [answered.2]
        tuned := shared.answers.length } := by
  have settled := Step.tune List.mem_cons_self (shared.getElem?_ask answered)
  simp only [settle, ask, List.erase_cons_head] at settled
  exact (Relation.ReflTransGen.single step).tail settled

/-- The dial when a reply is handled without an interruption. -/
def hear (shared : SharedDial) (station : Station) : SharedDial :=
  { shared with
    dial := shared.dial.noteReply shared.now station
    answers := shared.answers ++ [(shared.dial.roster.update shared.now station).2]
    tuned := shared.answers.length }

theorem reflTransGen_hear {station : Station} (replied : station.lastReply ≤ shared.now) :
    Relation.ReflTransGen Step shared (shared.hear station) :=
  reflTransGen_ask (.reply replied)

theorem reflTransGen_recheck (shared : SharedDial) :
    Relation.ReflTransGen Step shared
      { shared with
        dial := shared.dial.recheck shared.now
        answers := shared.answers ++ [(shared.dial.roster.current shared.now).2]
        tuned := shared.answers.length } :=
  reflTransGen_ask (.look shared)

theorem reflTransGen_move (shared : SharedDial) (direction : Direction) :
    Relation.ReflTransGen Step shared
      { shared with
        dial := shared.dial.move shared.now direction
        answers := shared.answers ++ [(shared.dial.roster.move shared.now direction).2]
        tuned := shared.answers.length } :=
  (reflTransGen_ask (.press shared direction)).tail (.draw _)

/-! ## What the roster has answered -/

/-- What a roster has answered is the selected station, unless that has been dropped since. -/
def Matches (roster : Roster) (answer : Option Station) : Prop :=
  roster.selectedStation = answer ∨
    ∃ station, answer = some station ∧ Roster.holds roster.stations station.name = false

theorem Matches.evict {roster : Roster} {answer : Option Station} (isMatch : Matches roster answer)
    (wellFormed : roster.WellFormed) (now : Nat) : Matches (roster.evict now) answer := by
  rcases isMatch with rfl | ⟨station, rfl, absent⟩
  · exact wellFormed.evict_selectedStation_cases now
  · -- A name that has been dropped only comes back with a reply, and that is answered anew.
    refine .inr ⟨station, rfl, Bool.eq_false_iff.mpr fun held => ?_⟩
    exact Bool.eq_false_iff.mp absent (Roster.holds_of_holds_filter held)

/-- The last answer matches the roster, and what is played is the answer that was tuned to last. -/
structure Faithful (shared : SharedDial) : Prop where
  wellFormed : shared.dial.roster.WellFormed
  tuned_eq : shared.answers[shared.tuned]? = some shared.dial.tuning.station
  isMatch : ∃ answer, shared.answers.getLast? = some answer ∧ Matches shared.dial.roster answer

theorem faithful_new (timeout : Nat) (preferred : Option String) :
    (new timeout preferred).Faithful where
  wellFormed := Roster.wellFormed_new timeout preferred
  tuned_eq := rfl
  isMatch := ⟨none, rfl, .inl rfl⟩

theorem Faithful.ask (faithful : shared.Faithful) {answered : Roster × Option Station}
    (wellFormed : answered.1.WellFormed) (answer_eq : answered.1.selectedStation = answered.2) :
    (shared.ask answered).Faithful where
  wellFormed := wellFormed
  tuned_eq := by
    obtain ⟨tuned_lt, -⟩ := List.getElem?_eq_some_iff.mp faithful.tuned_eq
    exact (List.getElem?_append_left tuned_lt).trans faithful.tuned_eq
  isMatch := ⟨answered.2, List.getLast?_concat, .inl answer_eq⟩

theorem Faithful.step (faithful : shared.Faithful) (step : Step shared after) :
    after.Faithful := by
  have wellFormed := faithful.wellFormed
  cases step with
  | @reply station replied => exact faithful.ask (wellFormed.update shared.now station) rfl
  | press direction => exact faithful.ask (wellFormed.move shared.now direction) rfl
  | look => exact faithful.ask (wellFormed.evict shared.now) rfl
  | @tune number station due answered =>
      refine ⟨wellFormed, answered.trans (congrArg some ?_), faithful.isMatch⟩
      exact (shared.dial.tuning.choose_station station).symm
  | draw =>
      obtain ⟨answer, last, isMatch⟩ := faithful.isMatch
      exact ⟨wellFormed.evict shared.now, faithful.tuned_eq, answer, last,
        isMatch.evict wellFormed shared.now⟩
  | wait duration => exact ⟨wellFormed, faithful.tuned_eq, faithful.isMatch⟩

theorem faithful_of_reached {timeout : Nat} {preferred : Option String}
    (reached : Relation.ReflTransGen Step (new timeout preferred) shared) : shared.Faithful := by
  induction reached with
  | refl => exact faithful_new timeout preferred
  | tail _ step ih => exact ih.step step

/-- In whatever order the tasks take their steps, once the last answer of the roster has been tuned
to the station that is played is the one that is marked, unless it is not known any more. -/
theorem played_eq_marked_iff {timeout : Nat} {preferred : Option String}
    (reached : Relation.ReflTransGen Step (new timeout preferred) shared)
    (settled : shared.IsSettled) : shared.played = shared.marked ↔ shared.IsPlayedKnown := by
  obtain ⟨wellFormed, tuned_eq, answer, last, isMatch⟩ := faithful_of_reached reached
  have answer_eq : answer = shared.dial.tuning.station := by
    rw [List.getLast?_eq_getElem?, ← settled, Nat.add_sub_cancel, tuned_eq] at last
    exact (Option.some.inj last).symm
  subst answer_eq
  have known_of_marked {station : Station}
      (found : shared.dial.roster.selectedStation = some station) :
      Roster.holds shared.dial.roster.stations station.name = true := by
    obtain ⟨member, -⟩ := wellFormed.selectedStation_eq_some_iff.mp found
    exact Roster.holds_iff.mpr ⟨station, member, rfl⟩
  constructor
  · intro same station playing
    rw [played, playing, marked] at same
    obtain ⟨other, found, identity_eq⟩ := Option.map_eq_some_iff.mp same.symm
    have name_eq : other.name = station.name := congrArg Prod.fst identity_eq
    exact name_eq ▸ known_of_marked found
  · intro known
    rcases isMatch with same | ⟨station, playing, dropped⟩
    · rw [played, marked, same]
    · exact absurd (known station playing) (Bool.eq_false_iff.mp dropped)

/-! ## A menu that is drawn too early, and an answer that comes too late -/

/-- A station of a name, with an address of its own. -/
def announced (name : String) (host : UInt8) (lastReply : Nat) : Station :=
  { name
    control := { address := ⟨10, 0, 0, host⟩, port := 35830 }
    stream := { address := ⟨239, 0, 0, host⟩, port := 25830 }
    lastReply }

/-- The station that is played falls silent, which the menu notices before the next lookup. -/
def drawnEarly : SharedDial :=
  (((((new 20000 none).hear (announced "Alpha" 1 0)).wait 15000).hear
    (announced "Beta" 2 15000)).wait 5001).draw

theorem reflTransGen_drawnEarly : Relation.ReflTransGen Step (new 20000 none) drawnEarly := by
  have alpha := @reflTransGen_hear (new 20000 none) (announced "Alpha" 1 0) le_rfl
  have later := alpha.tail (.wait _ 15000)
  have beta := later.trans (@reflTransGen_hear _ (announced "Beta" 2 15000) (by decide))
  exact (beta.tail (.wait _ 5001)).tail (.draw _)

theorem played_eq_marked_iff_of_drawnEarly :
    Relation.ReflTransGen Step (new 20000 none) drawnEarly ∧ drawnEarly.IsSettled ∧
      drawnEarly.played = some (announced "Alpha" 1 0).identity ∧
      drawnEarly.marked = some (announced "Beta" 2 15000).identity ∧
      (drawnEarly.played = drawnEarly.marked ↔ drawnEarly.IsPlayedKnown) := by
  have settled : drawnEarly.IsSettled := rfl
  exact ⟨reflTransGen_drawnEarly, settled, by decide +kernel, by decide +kernel,
    played_eq_marked_iff reflTransGen_drawnEarly settled⟩

/-- A station may be marked that is not played although no task is about to tune. -/
theorem not_forall_played_eq_marked :
    ¬∀ (timeout : Nat) (preferred : Option String) (shared : SharedDial),
      Relation.ReflTransGen Step (new timeout preferred) shared → shared.pending = [] →
        shared.played = shared.marked := by
  intro same
  have played_eq_marked := same 20000 none drawnEarly reflTransGen_drawnEarly rfl
  revert played_eq_marked
  decide +kernel

/-- Two listeners move the selection, and the task that has got the first answer tunes last. -/
def overtaken : SharedDial :=
  let known := ((new 20000 none).hear (announced "Alpha" 1 0)).hear (announced "Beta" 2 0)
  let first := known.ask (known.dial.roster.move 0 .down)
  let second := first.ask (first.dial.roster.move 0 .down)
  (second.settle 4 (some (announced "Alpha" 1 0))).settle 3 (some (announced "Beta" 2 0))

theorem reflTransGen_overtaken : Relation.ReflTransGen Step (new 20000 none) overtaken := by
  have alpha := @reflTransGen_hear (new 20000 none) (announced "Alpha" 1 0) le_rfl
  have beta := alpha.trans (@reflTransGen_hear _ (announced "Beta" 2 0) (by decide))
  have pressed := (beta.tail (.press _ .down)).tail (.press _ .down)
  exact (pressed.tail (.tune (by decide) (by decide +kernel))).tail
    (.tune (by decide) (by decide +kernel))

/-- It is not enough that no station has been dropped: an answer may have been overtaken. -/
theorem not_forall_played_eq_marked_of_known :
    ¬∀ (timeout : Nat) (preferred : Option String) (shared : SharedDial),
      Relation.ReflTransGen Step (new timeout preferred) shared → shared.pending = [] →
        shared.IsPlayedKnown → shared.played = shared.marked := by
  intro same
  have known : overtaken.IsPlayedKnown := by
    rintro _ ⟨⟩
    decide +kernel
  have played_eq_marked := same 20000 none overtaken reflTransGen_overtaken rfl known
  revert played_eq_marked
  decide +kernel

end SharedDial
end Menu
end AudioMulticast
