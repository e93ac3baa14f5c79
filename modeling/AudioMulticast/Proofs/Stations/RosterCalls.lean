import AudioMulticast.Proofs.Stations.RosterOrder

/-!
# Runs of a roster

A roster is used through five requests, each of which is made at some time.  Whatever is requested,
the stations that have been silent for too long are dropped first, so an answer depends on nothing
else than what is left of the roster at that time.  Dropping at one time and again at a later one is
the same as dropping at the later one.
-/

namespace AudioMulticast

/-- What a roster can be asked to do. -/
inductive RosterRequest where
  /-- Add a station or refresh its record. -/
  | update (station : Station)
  /-- Move the selection by one step. -/
  | move (direction : Direction)
  /-- Answer the selected station. -/
  | current
  /-- Answer the names of all stations. -/
  | names
  /-- Answer the lines of the menu. -/
  | menu
  deriving DecidableEq

namespace RosterRequest

/-- The record that a request brings for a name. -/
def record? (name : String) : RosterRequest → Option Station
  | .update station => if station.name = name then some station else none
  | _ => none

/-- Whether nothing but an answer is asked for. -/
def isLook : RosterRequest → Bool
  | .update _ => false
  | .move _ => false
  | .current => true
  | .names => true
  | .menu => true

end RosterRequest

/-- A request at some time. -/
structure RosterCall where
  time : Nat
  request : RosterRequest
  deriving DecidableEq

/-- What a roster answers to a request. -/
inductive RosterAnswer where
  /-- The selected station. -/
  | station (selected : Option Station)
  /-- The names of all stations. -/
  | names (names : List String)
  /-- The lines of the menu. -/
  | menu (entries : List MenuEntry)
  deriving DecidableEq

namespace Roster

/-- A roster without stations. -/
def new (timeout : Nat) (preferred : Option String) : Roster :=
  { timeout, preferred }

/-- Carry out a request. -/
def perform (roster : Roster) (call : RosterCall) : Roster × RosterAnswer :=
  match call.request with
  | .update station => (roster.update call.time station).map id .station
  | .move direction => (roster.move call.time direction).map id .station
  | .current => (roster.current call.time).map id .station
  | .names => (roster.names call.time).map id .names
  | .menu => (roster.menu call.time).map id .menu

/-- The roster after some calls. -/
def run (roster : Roster) (calls : List RosterCall) : Roster :=
  calls.foldl (fun roster call => (roster.perform call).1) roster

/-- What a roster answers to some calls. -/
def answers : Roster → List RosterCall → List RosterAnswer
  | _, [] => []
  | roster, call :: calls => (roster.perform call).2 :: (roster.perform call).1.answers calls

variable {roster : Roster}

theorem run_concat (roster : Roster) (calls : List RosterCall) (call : RosterCall) :
    roster.run (calls ++ [call]) = ((roster.run calls).perform call).1 :=
  List.foldl_concat _ _ _ _

/-! ## What is left of a roster -/

/-- An answer depends on what is left of the roster. -/
theorem perform_congr {left right : Roster} {call : RosterCall}
    (same : left.evict call.time = right.evict call.time) :
    left.perform call = right.perform call := by
  obtain ⟨time, request⟩ := call
  cases request with
  | update station => simp only [perform, update, same]
  | move direction => simp only [perform, move, same]
  | current => simp only [perform, current, same]
  | names => simp only [perform, names, same]
  | menu => simp only [perform, menu, same]

theorem perform_look {call : RosterCall} (isLook : call.request.isLook = true) :
    (roster.perform call).1 = roster.evict call.time := by
  obtain ⟨time, request⟩ := call
  cases request with
  | update station => cases isLook
  | move direction => cases isLook
  | current => rfl
  | names => rfl
  | menu => rfl

theorem isStale_mono {station : Station} {earlier later timeout : Nat} (le : earlier ≤ later)
    (stale : station.isStale earlier timeout = true) : station.isStale later timeout = true := by
  rw [Station.isStale, decide_eq_true_eq] at stale ⊢
  omega

/-- Dropping stations early makes no difference to what is left later. -/
theorem evict_evict (ascending : Ascending roster.stations) {earlier later : Nat}
    (le : earlier ≤ later) : (roster.evict earlier).evict later = roster.evict later := by
  have same : ∀ station ∈ roster.stations,
      (!station.isStale later roster.timeout && !station.isStale earlier roster.timeout) =
        !station.isStale later roster.timeout := by
    intro station _
    cases late : station.isStale later roster.timeout with
    | true => rfl
    | false =>
        have early := mt (isStale_mono le) (Bool.eq_false_iff.mp late)
        rw [Bool.eq_false_iff.mpr early]
        rfl
  have stations_eq := List.filter_congr same
  rw [← List.filter_filter] at stations_eq
  have selected_eq :=
    (ascending.filter fun station => !station.isStale earlier roster.timeout).reselect_reselect
      (fun station => !station.isStale later roster.timeout) roster.selected
  rw [stations_eq] at selected_eq
  simp only [evict, stations_eq, selected_eq]

/-! ## What holds of every roster -/

/-- The stations are in order, and one of them is selected unless there is none. -/
structure WellFormed (roster : Roster) : Prop where
  ascending : Ascending roster.stations
  stations_eq_nil : roster.selected = none → roster.stations = []
  holds_selected : ∀ name, roster.selected = some name → holds roster.stations name = true

theorem wellFormed_new (timeout : Nat) (preferred : Option String) :
    (new timeout preferred).WellFormed where
  ascending := List.Pairwise.nil
  stations_eq_nil := fun _ => rfl
  holds_selected := by rintro _ ⟨⟩

theorem WellFormed.selected_eq_none_iff (wellFormed : roster.WellFormed) :
    roster.selected = none ↔ roster.stations = [] := by
  refine ⟨wellFormed.stations_eq_nil, fun empty => Option.eq_none_iff_forall_ne_some.mpr ?_⟩
  intro name selected
  have held := wellFormed.holds_selected name selected
  rw [empty] at held
  cases held

theorem WellFormed.evict (wellFormed : roster.WellFormed) (now : Nat) :
    (roster.evict now).WellFormed where
  ascending := wellFormed.ascending.filter _
  stations_eq_nil := by
    intro nothing
    cases selected : roster.selected with
    | none =>
        rw [Roster.evict, wellFormed.stations_eq_nil selected, List.filter_nil]
    | some name =>
        rw [Roster.evict, selected, (wellFormed.ascending.filter _).reselect_some,
          Option.or_eq_none_iff] at nothing
        exact firstName_eq_none_iff.mp nothing.2
  holds_selected := by
    intro name left
    obtain ⟨before, -, chosen⟩ := Option.bind_eq_some_iff.mp left
    split_ifs at chosen with held
    · cases chosen
      exact held
    · rcases Option.or_eq_some_iff.mp chosen with behind | ⟨-, first⟩
      · exact holds_of_holds_filter (holds_of_firstName behind)
      · exact holds_of_firstName first

/-- The selection after a station has shown up is that station, or the one before. -/
theorem selectionWith_cases (roster : Roster) (station : Station) :
    (roster.selectionWith station = some station.name ∧
        (roster.selected = none ∨
          roster.preferred = some station.name ∧
            holds roster.stations station.name = false)) ∨
      (roster.selectionWith station = roster.selected ∧ roster.selected ≠ none ∧
        (roster.preferred = some station.name → holds roster.stations station.name = true)) := by
  rw [selectionWith]
  cases selected : roster.selected with
  | none => exact .inl ⟨rfl, .inl rfl⟩
  | some name =>
      dsimp only
      split_ifs with forced
      · exact .inl ⟨rfl, .inr forced⟩
      · refine .inr ⟨rfl, Option.some_ne_none name, fun isPreferred => ?_⟩
        exact Bool.not_eq_false _ ▸ fun isNew => forced ⟨isPreferred, isNew⟩

theorem WellFormed.update (wellFormed : roster.WellFormed) (now : Nat) (station : Station) :
    (roster.update now station).1.WellFormed := by
  have left := wellFormed.evict now
  refine ⟨ascending_insert left.ascending station, fun nothing => ?_, fun name selected => ?_⟩
  · rcases (roster.evict now).selectionWith_cases station with ⟨chosen, -⟩ | ⟨same, something, -⟩
    · cases chosen.symm.trans nothing
    · exact absurd (same.symm.trans nothing) something
  · refine (holds_insert left.ascending).mpr ?_
    rcases (roster.evict now).selectionWith_cases station with ⟨chosen, -⟩ | ⟨same, -, -⟩
    · exact .inl (Option.some.inj (selected.symm.trans chosen))
    · exact .inr (left.holds_selected name (same.symm.trans selected))

theorem neighbour_eq_none {stations : List Station} {direction : Direction} {name : String}
    (nothing : neighbour stations direction name = none) : stations = [] := by
  cases direction with
  | down => exact firstName_eq_none_iff.mp (Option.or_eq_none_iff.mp nothing).2
  | up => exact lastName_eq_none_iff.mp (Option.or_eq_none_iff.mp nothing).2

theorem holds_neighbour {stations : List Station} {direction : Direction} {name next : String}
    (found : neighbour stations direction name = some next) : holds stations next = true := by
  cases direction with
  | down =>
      rcases Option.or_eq_some_iff.mp found with behind | ⟨-, first⟩
      · exact holds_of_holds_filter (holds_of_firstName behind)
      · exact holds_of_firstName first
  | up =>
      rcases Option.or_eq_some_iff.mp found with before | ⟨-, last⟩
      · exact holds_of_holds_filter (holds_of_lastName before)
      · exact holds_of_lastName last

theorem WellFormed.move (wellFormed : roster.WellFormed) (now : Nat) (direction : Direction) :
    (roster.move now direction).1.WellFormed := by
  have left := wellFormed.evict now
  refine ⟨left.ascending, fun nothing => ?_, fun name found => ?_⟩
  · simp only [Roster.move] at nothing
    cases selected : (roster.evict now).selected with
    | none => exact left.stations_eq_nil selected
    | some name =>
        rw [selected] at nothing
        exact neighbour_eq_none nothing
  · simp only [Roster.move] at found
    cases selected : (roster.evict now).selected with
    | none =>
        rw [selected] at found
        exact holds_of_firstName found
    | some name =>
        rw [selected] at found
        exact holds_neighbour found

theorem WellFormed.perform (wellFormed : roster.WellFormed) (call : RosterCall) :
    (roster.perform call).1.WellFormed := by
  obtain ⟨time, request⟩ := call
  cases request with
  | update station => exact wellFormed.update time station
  | move direction => exact wellFormed.move time direction
  | current => exact wellFormed.evict time
  | names => exact wellFormed.evict time
  | menu => exact wellFormed.evict time

theorem WellFormed.run (wellFormed : roster.WellFormed) (calls : List RosterCall) :
    (roster.run calls).WellFormed := by
  induction calls generalizing roster with
  | nil => exact wellFormed
  | cons call calls ih => exact ih (wellFormed.perform call)

/-! ## The selected station -/

theorem WellFormed.selectedStation_eq_some_iff (wellFormed : roster.WellFormed)
    {station : Station} :
    roster.selectedStation = some station ↔
      station ∈ roster.stations ∧ roster.selected = some station.name := by
  rw [selectedStation, Option.bind_eq_some_iff]
  constructor
  · rintro ⟨name, selected, found⟩
    obtain ⟨member, rfl⟩ := wellFormed.ascending.find?_eq_some_iff.mp found
    exact ⟨member, selected⟩
  · rintro ⟨member, selected⟩
    exact ⟨station.name, selected, wellFormed.ascending.find?_eq_some_iff.mpr ⟨member, rfl⟩⟩

theorem WellFormed.selectedStation_name (wellFormed : roster.WellFormed) :
    roster.selectedStation.map Station.name = roster.selected := by
  cases selected : roster.selected with
  | none => rw [selectedStation, selected, Option.bind_none, Option.map_none]
  | some name =>
      obtain ⟨station, member, rfl⟩ := holds_iff.mp (wellFormed.holds_selected name selected)
      rw [wellFormed.selectedStation_eq_some_iff.mpr ⟨member, selected⟩, Option.map_some]

/-- Dropping stations keeps the selected one, unless it is dropped itself. -/
theorem WellFormed.evict_selectedStation_cases (wellFormed : roster.WellFormed) (now : Nat) :
    (roster.evict now).selectedStation = roster.selectedStation ∨
      ∃ station, roster.selectedStation = some station ∧
        holds (roster.evict now).stations station.name = false := by
  cases found : roster.selectedStation with
  | none =>
      have nothing : roster.selected = none := by
        rw [← wellFormed.selectedStation_name, found, Option.map_none]
      left
      rw [selectedStation, Roster.evict, nothing]
      rfl
  | some station =>
      obtain ⟨member, selected⟩ := wellFormed.selectedStation_eq_some_iff.mp found
      cases held : holds (roster.evict now).stations station.name with
      | false => exact .inr ⟨station, rfl, held⟩
      | true =>
          left
          obtain ⟨other, left_mem, same⟩ := holds_iff.mp held
          obtain rfl :=
            wellFormed.ascending.eq_of_name_eq (List.mem_of_mem_filter left_mem) member same
          refine (wellFormed.evict now).selectedStation_eq_some_iff.mpr ⟨left_mem, ?_⟩
          rw [Roster.evict, selected, reselect, Option.bind_some]
          exact if_pos held

end Roster
end AudioMulticast
