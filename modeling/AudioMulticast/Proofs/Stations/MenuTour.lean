import AudioMulticast.Proofs.Stations.RosterCalls
import AudioMulticast.Proofs.Text.ByteOrder
import Mathlib.Data.List.Rotate

/-!
# Steps through the menu

A step leads to the next station in one direction, and from the last one around to the first.  So the
stations stand in a circle, around which as many steps lead as there are stations, and a step in the
other direction leads back.
-/

namespace AudioMulticast

/-- The other direction. -/
def Direction.opposite : Direction → Direction
  | .up => .down
  | .down => .up

namespace Roster

/-- The stations that have not been silent for too long. -/
def listed (roster : Roster) (now : Nat) : List Station :=
  roster.stations.filter fun station => !station.isStale now roster.timeout

/-- The stations in the order in which steps in a direction reach them. -/
def inDirection : Direction → List Station → List Station
  | .up, stations => stations.reverse
  | .down, stations => stations

/-- Some steps in a direction, without time passing. -/
def steps (now : Nat) (direction : Direction) (count : Nat) : List RosterCall :=
  List.replicate count { time := now, request := .move direction }

/-- A roster whose stations stand in a circle. -/
structure MovesAround (roster : Roster) (now : Nat) : Prop where
  /-- The stations are listed once each, in the order of the bytes of their names. -/
  ascending : (roster.listed now).Pairwise fun first second =>
    Bytes.ofText first.name.toList < Bytes.ofText second.name.toList
  /-- As many steps as there are stations lead once around, from the station that is selected when the
  others have been dropped back to it. -/
  around : roster.listed now ≠ [] → ∀ direction, ∃ selected others,
    (roster.evict now).selectedStation = some selected ∧
      (selected :: others).IsRotated (inDirection direction (roster.listed now)) ∧
      roster.answers (steps now direction (roster.listed now).length) =
        (others ++ [selected]).map (fun station => .station (some station)) ∧
      roster.run (steps now direction (roster.listed now).length) = roster.evict now
  /-- A step back leads to the station before. -/
  back : ∀ direction,
    (roster.move now direction).1.move now direction.opposite =
      (roster.evict now, (roster.evict now).selectedStation)
  /-- Without stations, all steps are in vain. -/
  nowhere : roster.listed now = [] → ∀ directions : List Direction,
    roster.answers (directions.map fun direction => { time := now, request := .move direction }) =
      List.replicate directions.length (.station none)

variable {roster : Roster} {stations others : List Station} {station next : Station}
  {direction : Direction} {now : Nat}

/-! ## One step -/

/-- A circle that begins with a station is cut open there. -/
theorem exists_split_of_isRotated (rotated : (station :: others).IsRotated stations) :
    ∃ before after, stations = before ++ station :: after ∧ others = after ++ before := by
  obtain ⟨count, count_le, rotate_eq⟩ := List.isRotated_iff_mod.mp rotated
  rw [List.rotate_eq_drop_append_take count_le] at rotate_eq
  cases count with
  | zero =>
      rw [List.drop_zero, List.take_zero, List.append_nil] at rotate_eq
      exact ⟨[], others, rotate_eq.symm, (List.append_nil others).symm⟩
  | succ count =>
      exact ⟨others.drop count, others.take count, rotate_eq.symm,
        (List.take_append_drop count others).symm⟩

theorem firstName_append (first second : List Station) :
    firstName (first ++ second) = (firstName first).or (firstName second) := by
  rw [firstName, List.head?_append, Option.map_or]
  rfl

theorem lastName_eq_firstName_reverse (stations : List Station) :
    lastName stations = firstName stations.reverse := by
  rw [lastName, List.getLast?_eq_head?_reverse, firstName]

/-- The names behind a station of the menu are those of the stations behind it. -/
theorem Ascending.nameAfter_eq {before after : List Station}
    (ascending : Ascending (before ++ station :: after)) :
    nameAfter (before ++ station :: after) station.name = firstName after := by
  obtain ⟨-, behind, across⟩ := List.pairwise_append.mp ascending
  obtain ⟨after_gt, -⟩ := List.pairwise_cons.mp behind
  have before_eq : before.filter (fun other => station.name < other.name) = [] :=
    List.filter_eq_nil_iff.mpr fun other member gt =>
      (across other member station List.mem_cons_self).not_gt (of_decide_eq_true gt)
  have after_eq : after.filter (fun other => station.name < other.name) = after :=
    List.filter_eq_self.mpr fun other member => decide_eq_true (after_gt other member)
  rw [nameAfter, List.filter_append, before_eq, List.nil_append,
    List.filter_cons_of_neg (by simp), after_eq]

theorem Ascending.nameBefore_eq {before after : List Station}
    (ascending : Ascending (before ++ station :: after)) :
    nameBefore (before ++ station :: after) station.name = lastName before := by
  obtain ⟨-, behind, across⟩ := List.pairwise_append.mp ascending
  obtain ⟨after_gt, -⟩ := List.pairwise_cons.mp behind
  have before_eq : before.filter (fun other => other.name < station.name) = before :=
    List.filter_eq_self.mpr fun other member =>
      decide_eq_true (across other member station List.mem_cons_self)
  have after_eq : after.filter (fun other => other.name < station.name) = [] :=
    List.filter_eq_nil_iff.mpr fun other member lt =>
      (after_gt other member).not_gt (of_decide_eq_true lt)
  rw [nameBefore, List.filter_append, before_eq, List.filter_cons_of_neg (by simp), after_eq,
    List.append_nil]

/-- A step leads to the next station in the circle. -/
theorem Ascending.neighbour_eq (ascending : Ascending stations)
    (rotated : (station :: others).IsRotated (inDirection direction stations)) :
    neighbour stations direction station.name = firstName (others ++ [station]) := by
  obtain ⟨before, after, split, rfl⟩ := exists_split_of_isRotated rotated
  have circle_eq :
      firstName (after ++ before ++ [station]) =
        (firstName after).or (firstName (before ++ station :: after)) := by
    rw [List.append_assoc, firstName_append, firstName_append before, firstName_append before]
    rfl
  cases direction with
  | down =>
      have split : stations = before ++ station :: after := split
      rw [split] at ascending ⊢
      rw [neighbour, ascending.nameAfter_eq, circle_eq]
  | up =>
      have mirrored : stations = after.reverse ++ station :: before.reverse := by
        rw [List.reverse_eq_iff.mp split]
        simp
      rw [mirrored] at ascending ⊢
      rw [neighbour, ascending.nameBefore_eq, circle_eq, lastName_eq_firstName_reverse,
        lastName_eq_firstName_reverse]
      simp

/-- The roster whose selection has come to a station. -/
def pointedAt (roster : Roster) (now : Nat) (station : Station) : Roster :=
  { roster.evict now with selected := some station.name }

/-- Nothing is dropped twice. -/
theorem evict_pointedAt (member : station ∈ roster.listed now) :
    (roster.pointedAt now station).evict now = roster.pointedAt now station := by
  have stations_eq :
      (roster.listed now).filter (fun other => !other.isStale now roster.timeout) =
        roster.listed now :=
    List.filter_eq_self.mpr fun other inside => (List.mem_filter.mp inside).2
  have held : holds (roster.listed now) station.name = true :=
    holds_iff.mpr ⟨station, member, rfl⟩
  simp only [listed] at stations_eq held
  simp only [evict, pointedAt, stations_eq, reselect, Option.bind_some, held, if_true]

theorem selectedStation_pointedAt (ascending : Ascending roster.stations)
    (member : station ∈ roster.listed now) :
    (roster.pointedAt now station).selectedStation = some station :=
  (ascending.filter _).find?_eq_some_iff.mpr ⟨member, rfl⟩

/-- A circle goes on behind its first station, and ends with it. -/
theorem isRotated_of_append_eq {circle rest : List Station}
    (rotated : (station :: others).IsRotated circle)
    (next_eq : others ++ [station] = next :: rest) : (next :: rest).IsRotated circle :=
  next_eq ▸ (List.isRotated_concat station others).trans rotated

theorem mem_of_isRotated_inDirection
    (rotated : (station :: others).IsRotated (inDirection direction stations)) :
    station ∈ stations := by
  have member := rotated.mem_iff.mp List.mem_cons_self
  cases direction with
  | down => exact member
  | up => exact List.mem_reverse.mp member

theorem move_pointedAt (ascending : Ascending roster.stations) {rest : List Station}
    (rotated : (station :: others).IsRotated (inDirection direction (roster.listed now)))
    (next_eq : others ++ [station] = next :: rest) :
    (roster.pointedAt now station).move now direction =
      (roster.pointedAt now next, some next) := by
  have member := mem_of_isRotated_inDirection rotated
  have next_member := mem_of_isRotated_inDirection (isRotated_of_append_eq rotated next_eq)
  have neighbour_eq :
      neighbour (roster.listed now) direction station.name = some next.name := by
    have listed_ascending : Ascending (roster.listed now) := ascending.filter _
    rw [listed_ascending.neighbour_eq rotated, next_eq]
    rfl
  have moved : ({ roster.pointedAt now station with
      selected := neighbour (roster.listed now) direction station.name } : Roster) =
        roster.pointedAt now next := by
    rw [neighbour_eq]
    rfl
  rw [← selectedStation_pointedAt ascending next_member, ← moved, move, evict_pointedAt member]
  rfl

/-! ## Several steps -/

theorem steps_succ (now : Nat) (direction : Direction) (count : Nat) :
    steps now direction (count + 1) =
      { time := now, request := .move direction } :: steps now direction count :=
  List.replicate_succ

theorem perform_move (roster : Roster) (now : Nat) (direction : Direction) :
    roster.perform { time := now, request := .move direction } =
      ((roster.move now direction).1, .station (roster.move now direction).2) :=
  rfl

/-- Steps lead along the circle, and come to where the last of them has led. -/
theorem steps_pointedAt (ascending : Ascending roster.stations) {walk rest : List Station}
    (rotated : (station :: others).IsRotated (inDirection direction (roster.listed now)))
    (walk_eq : others ++ [station] = walk ++ rest) :
    (roster.pointedAt now station).answers (steps now direction walk.length) =
        walk.map (fun station => .station (some station)) ∧
      (roster.pointedAt now station).run (steps now direction walk.length) =
        roster.pointedAt now (walk.getLast?.getD station) := by
  induction walk generalizing station others rest with
  | nil => exact ⟨rfl, rfl⟩
  | cons next walk ih =>
      have moved := move_pointedAt ascending rotated walk_eq
      have onward : walk ++ rest ++ [next] = walk ++ (rest ++ [next]) := List.append_assoc _ _ _
      obtain ⟨answers_eq, run_eq⟩ := ih (isRotated_of_append_eq rotated walk_eq) onward
      rw [List.length_cons, steps_succ]
      constructor
      · rw [answers, perform_move, moved, answers_eq, List.map_cons]
      · rw [run, List.foldl_cons, perform_move, moved, List.getLast?_cons, Option.getD_some]
        exact run_eq

/-- A roster and what is left of it take the same steps. -/
theorem steps_evict (ascending : Ascending roster.stations) (now : Nat) (direction : Direction)
    (count : Nat) :
    (roster.evict now).answers (steps now direction (count + 1)) =
        roster.answers (steps now direction (count + 1)) ∧
      (roster.evict now).run (steps now direction (count + 1)) =
        roster.run (steps now direction (count + 1)) := by
  have same : (roster.evict now).perform { time := now, request := .move direction } =
      roster.perform { time := now, request := .move direction } :=
    perform_congr (evict_evict ascending (Nat.le_refl now))
  rw [steps_succ, answers, answers, run, run, List.foldl_cons, List.foldl_cons, same]
  exact ⟨rfl, rfl⟩

/-- Some station is selected, unless none is listed. -/
theorem WellFormed.exists_pointedAt (wellFormed : roster.WellFormed)
    (listed_ne : roster.listed now ≠ []) :
    ∃ station ∈ roster.listed now, roster.evict now = roster.pointedAt now station := by
  have left := wellFormed.evict now
  cases selected_eq : (roster.evict now).selected with
  | none => exact absurd (left.stations_eq_nil selected_eq) listed_ne
  | some name =>
      obtain ⟨station, member, rfl⟩ := holds_iff.mp (left.holds_selected name selected_eq)
      exact ⟨station, member, by rw [pointedAt, ← selected_eq]⟩

theorem length_inDirection (direction : Direction) (stations : List Station) :
    (inDirection direction stations).length = stations.length := by
  cases direction with
  | up => exact List.length_reverse
  | down => rfl

/-- A circle may begin with any of its stations. -/
theorem exists_isRotated (member : station ∈ stations) (direction : Direction) :
    ∃ others, (station :: others).IsRotated (inDirection direction stations) := by
  have inside : station ∈ inDirection direction stations := by
    cases direction with
    | up => exact List.mem_reverse.mpr member
    | down => exact member
  obtain ⟨before, after, split⟩ := List.append_of_mem inside
  rw [split]
  exact ⟨after ++ before, List.isRotated_append (l := station :: after)⟩

theorem WellFormed.around (wellFormed : roster.WellFormed) (listed_ne : roster.listed now ≠ [])
    (direction : Direction) : ∃ selected others,
      (roster.evict now).selectedStation = some selected ∧
        (selected :: others).IsRotated (inDirection direction (roster.listed now)) ∧
        roster.answers (steps now direction (roster.listed now).length) =
          (others ++ [selected]).map (fun station => .station (some station)) ∧
        roster.run (steps now direction (roster.listed now).length) = roster.evict now := by
  have ascending := wellFormed.ascending
  obtain ⟨station, member, evict_eq⟩ := wellFormed.exists_pointedAt listed_ne
  obtain ⟨others, rotated⟩ := exists_isRotated member direction
  have selected_eq := selectedStation_pointedAt ascending member
  have walked := steps_pointedAt ascending rotated (List.append_nil (others ++ [station])).symm
  obtain ⟨answers_eq, run_eq⟩ := steps_evict ascending now direction others.length
  have length_eq : (roster.listed now).length = others.length + 1 := by
    rw [← length_inDirection direction, ← rotated.perm.length_eq, List.length_cons]
  rw [List.getLast?_concat, Option.getD_some, ← evict_eq, List.length_append,
    List.length_singleton, answers_eq, run_eq, ← length_eq] at walked
  rw [← evict_eq] at selected_eq
  exact ⟨station, others, selected_eq, rotated, walked⟩

/-! ## Steps back and steps in vain -/

theorem inDirection_opposite (direction : Direction) (stations : List Station) :
    inDirection direction.opposite stations = (inDirection direction stations).reverse := by
  cases direction with
  | up => exact (List.reverse_reverse stations).symm
  | down => rfl

theorem listed_evict (ascending : Ascending roster.stations) (now : Nat) :
    (roster.evict now).listed now = roster.listed now :=
  congrArg Roster.stations (evict_evict ascending (Nat.le_refl now))

theorem WellFormed.move_of_listed_eq_nil (wellFormed : roster.WellFormed)
    (empty : roster.listed now = []) (direction : Direction) :
    roster.move now direction = (roster.evict now, none) := by
  have unselected := (wellFormed.evict now).selected_eq_none_iff.mpr empty
  have nowhere : firstName (roster.evict now).stations = none := firstName_eq_none_iff.mpr empty
  have unmoved : ({ roster.evict now with selected := none } : Roster) = roster.evict now := by
    rw [← unselected]
  rw [Roster.move, unselected, nowhere, unmoved, selectedStation, unselected]
  rfl

theorem WellFormed.back (wellFormed : roster.WellFormed) (direction : Direction) :
    (roster.move now direction).1.move now direction.opposite =
      (roster.evict now, (roster.evict now).selectedStation) := by
  have ascending := wellFormed.ascending
  have twice := evict_evict ascending (Nat.le_refl now)
  by_cases empty : roster.listed now = []
  · have left_empty := (listed_evict ascending now).trans empty
    have unselected := (wellFormed.evict now).selected_eq_none_iff.mpr empty
    rw [wellFormed.move_of_listed_eq_nil empty,
      (wellFormed.evict now).move_of_listed_eq_nil left_empty, twice, selectedStation, unselected]
    rfl
  · obtain ⟨station, member, evict_eq⟩ := wellFormed.exists_pointedAt empty
    obtain ⟨others, rotated⟩ := exists_isRotated member direction
    obtain ⟨next, rest, next_eq⟩ := List.exists_cons_of_ne_nil (List.concat_ne_nil station others)
    have moved : roster.move now direction = (roster.pointedAt now next, some next) := by
      rw [← move_pointedAt ascending rotated next_eq, ← evict_eq, Roster.move, Roster.move, twice]
    -- Seen from the next station, the circle is the same the other way around.
    have mirrored : (next :: rest.reverse).IsRotated
        (inDirection direction.opposite (roster.listed now)) := by
      have reversed := (isRotated_of_append_eq rotated next_eq).reverse
      rw [← inDirection_opposite, List.reverse_cons] at reversed
      exact (List.isRotated_concat next rest.reverse).symm.trans reversed
    have back_eq : rest.reverse ++ [next] = station :: others.reverse := by
      rw [← List.reverse_cons, ← next_eq, List.reverse_concat]
    rw [moved, move_pointedAt ascending mirrored back_eq, evict_eq,
      selectedStation_pointedAt ascending member]

theorem WellFormed.nowhere (wellFormed : roster.WellFormed) (empty : roster.listed now = [])
    (directions : List Direction) :
    roster.answers
        (directions.map fun direction => { time := now, request := .move direction }) =
      List.replicate directions.length (.station none) := by
  induction directions generalizing roster with
  | nil => rfl
  | cons direction directions ih =>
      have left_empty := (listed_evict wellFormed.ascending now).trans empty
      rw [List.map_cons, answers, perform_move, wellFormed.move_of_listed_eq_nil empty,
        ih (wellFormed.evict now) left_empty]
      rfl

/-- Whatever a roster has been through, steps through its menu lead around it. -/
theorem movesAround_run (timeout : Nat) (preferred : Option String) (calls : List RosterCall)
    (now : Nat) : ((new timeout preferred).run calls).MovesAround now :=
  have wellFormed := (wellFormed_new timeout preferred).run calls
  { ascending :=
      (wellFormed.ascending.filter _).imp Bytes.ofText_lt_ofText_iff.mpr
    around := wellFormed.around
    back := wellFormed.back
    nowhere := wellFormed.nowhere }

end Roster
end AudioMulticast
