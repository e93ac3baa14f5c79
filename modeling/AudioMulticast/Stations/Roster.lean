import AudioMulticast.Stations.Station

/-!
# The roster of stations

The receiver keeps the stations that replied recently, in ascending order of their names, and marks
one of them as selected.  Every operation first drops the stations that have been silent for too
long.  If the selected one is among them, the selection moves to the next name that is left, or to the
first one if there is none behind.
-/

namespace AudioMulticast

/-- A step through the menu. -/
inductive Direction where
  /-- To the station above. -/
  | up
  /-- To the station below. -/
  | down
  deriving DecidableEq, Repr

/-- One line of the menu. -/
structure MenuEntry where
  /-- Name of the station. -/
  name : String
  /-- Whether the station is the selected one. -/
  isSelected : Bool
  deriving DecidableEq, Repr

/-- The stations that replied recently, and the selected one. -/
structure Roster where
  /-- How long a station may be silent. -/
  timeout : Nat
  /-- Name of the station that is selected as soon as it shows up. -/
  preferred : Option String := none
  /-- The stations, in ascending order of their names. -/
  stations : List Station := []
  /-- Name of the selected station. -/
  selected : Option String := none
  deriving DecidableEq, Repr

namespace Roster

/-- Put a station into its place, instead of the record with its name if there is one. -/
def insert (station : Station) : List Station → List Station
  | [] => [station]
  | first :: rest =>
      if station.name < first.name then station :: first :: rest
      else if station.name = first.name then station :: rest
      else first :: insert station rest

/-- Whether a station with this name is present. -/
def holds (stations : List Station) (name : String) : Bool :=
  stations.any fun station => station.name == name

/-- The first name. -/
def firstName (stations : List Station) : Option String :=
  stations.head?.map Station.name

/-- The last name. -/
def lastName (stations : List Station) : Option String :=
  stations.getLast?.map Station.name

/-- The first name behind a given one. -/
def nameAfter (stations : List Station) (name : String) : Option String :=
  firstName (stations.filter fun station => name < station.name)

/-- The last name before a given one. -/
def nameBefore (stations : List Station) (name : String) : Option String :=
  lastName (stations.filter fun station => station.name < name)

/-- The name that is selected when stations have been dropped. -/
def reselect (stations : List Station) (selected : Option String) : Option String :=
  selected.bind fun name =>
    if holds stations name then some name
    else (nameAfter stations name).or (firstName stations)

/-- Drop the stations that have been silent for too long. -/
def evict (roster : Roster) (now : Nat) : Roster :=
  let stations := roster.stations.filter fun station => !station.isStale now roster.timeout
  { roster with stations, selected := reselect stations roster.selected }

/-- The record of the selected station. -/
def selectedStation (roster : Roster) : Option Station :=
  roster.selected.bind fun name => roster.stations.find? fun station => station.name == name

/-- The selection after a station has shown up.  The first station is selected, and the preferred one
when it is new. -/
def selectionWith (roster : Roster) (station : Station) : Option String :=
  match roster.selected with
  | none => some station.name
  | some name =>
      if roster.preferred = some station.name ∧ holds roster.stations station.name = false then
        some station.name
      else
        some name

/-- Add a station or refresh its record, and answer the selected station. -/
def update (roster : Roster) (now : Nat) (station : Station) : Roster × Option Station :=
  let current := roster.evict now
  let updated :=
    { current with
      stations := insert station current.stations
      selected := current.selectionWith station }
  (updated, updated.selectedStation)

/-- The name one step away from a given one, around the ends of the menu. -/
def neighbour (stations : List Station) (direction : Direction) (name : String) :
    Option String :=
  match direction with
  | .down => (nameAfter stations name).or (firstName stations)
  | .up => (nameBefore stations name).or (lastName stations)

/-- Move the selection by one step, and answer the selected station. -/
def move (roster : Roster) (now : Nat) (direction : Direction) : Roster × Option Station :=
  let current := roster.evict now
  let selected :=
    match current.selected with
    | none => firstName current.stations
    | some name => neighbour current.stations direction name
  let moved := { current with selected }
  (moved, moved.selectedStation)

/-- Answer the selected station. -/
def current (roster : Roster) (now : Nat) : Roster × Option Station :=
  let current := roster.evict now
  (current, current.selectedStation)

/-- Answer the names of all stations. -/
def names (roster : Roster) (now : Nat) : Roster × List String :=
  let current := roster.evict now
  (current, current.stations.map Station.name)

/-- Answer the lines of the menu. -/
def menu (roster : Roster) (now : Nat) : Roster × List MenuEntry :=
  let current := roster.evict now
  (current, current.stations.map fun station =>
    { name := station.name, isSelected := current.selected == some station.name })

end Roster
end AudioMulticast
