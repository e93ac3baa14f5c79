import AudioMulticast.Stations.Roster
import Mathlib.Data.List.Nodup
import Mathlib.Data.String.Basic

/-!
# Stations in the order of their names

The stations of a roster stand in strictly ascending order of their names, and one of them is
selected unless there is none.  No operation changes that.  In such a roster the selection after
some stations have been dropped is the first name that is left from the selected one on, around the
end.
-/

namespace AudioMulticast
namespace Roster

/-- Stations in strictly ascending order of their names. -/
def Ascending (stations : List Station) : Prop :=
  stations.Pairwise fun first second => first.name < second.name

variable {stations : List Station} {station : Station} {name : String}

theorem holds_iff : holds stations name = true ↔ ∃ station ∈ stations, station.name = name := by
  simp only [holds, List.any_eq_true, beq_iff_eq]

theorem Ascending.filter (ascending : Ascending stations) (isKept : Station → Bool) :
    Ascending (stations.filter isKept) :=
  List.Pairwise.sublist List.filter_sublist ascending

/-- A name stands for one record. -/
theorem Ascending.eq_of_name_eq (ascending : Ascending stations) {first second : Station}
    (first_mem : first ∈ stations) (second_mem : second ∈ stations)
    (name_eq : first.name = second.name) : first = second := by
  have distinct : (stations.map Station.name).Nodup :=
    List.pairwise_map.mpr (ascending.imp ne_of_lt)
  exact List.inj_on_of_nodup_map distinct first_mem second_mem name_eq

/-- The record of a name. -/
theorem Ascending.find?_eq_some_iff (ascending : Ascending stations) :
    (stations.find? fun station => station.name == name) = some station ↔
      station ∈ stations ∧ station.name = name := by
  have name_eq {found : Station}
      (found_eq : (stations.find? fun station => station.name == name) = some found) :
      found.name = name := by
    simpa only [beq_iff_eq] using List.find?_some found_eq
  constructor
  · intro found
    exact ⟨List.mem_of_find?_eq_some found, name_eq found⟩
  · rintro ⟨member, same⟩
    have present : (stations.find? fun station => station.name == name).isSome := by
      rw [List.find?_isSome]
      exact ⟨station, member, beq_iff_eq.mpr same⟩
    obtain ⟨first, found⟩ := Option.isSome_iff_exists.mp present
    have first_mem := List.mem_of_find?_eq_some found
    rw [found, ascending.eq_of_name_eq first_mem member ((name_eq found).trans same.symm)]

/-! ## Adding a station -/

theorem mem_insert (ascending : Ascending stations) {other : Station} :
    other ∈ insert station stations ↔
      other = station ∨ other ∈ stations ∧ other.name ≠ station.name := by
  induction stations with
  | nil => simp only [insert, List.mem_singleton, List.not_mem_nil, false_and, or_false]
  | cons first rest ih =>
      obtain ⟨first_lt, rest_ascending⟩ := List.pairwise_cons.mp ascending
      rw [insert]
      split_ifs with before same
      · have behind : ∀ other ∈ first :: rest, other.name ≠ station.name :=
          List.forall_mem_cons.mpr
            ⟨before.ne', fun other member => (before.trans (first_lt other member)).ne'⟩
        rw [List.mem_cons]
        exact or_congr_right (iff_self_and.mpr (behind other))
      · have behind : ∀ other ∈ rest, other.name ≠ station.name := fun other member =>
          same ▸ (first_lt other member).ne'
        rw [List.mem_cons, List.mem_cons]
        refine or_congr_right ⟨fun member => ⟨.inr member, behind other member⟩, ?_⟩
        rintro ⟨rfl | member, different⟩
        · exact absurd same.symm different
        · exact member
      · rw [List.mem_cons, ih rest_ascending, List.mem_cons]
        constructor
        · rintro (rfl | rfl | ⟨member, different⟩)
          · exact .inr ⟨.inl rfl, Ne.symm same⟩
          · exact .inl rfl
          · exact .inr ⟨.inr member, different⟩
        · rintro (rfl | ⟨rfl | member, different⟩)
          · exact .inr (.inl rfl)
          · exact .inl rfl
          · exact .inr (.inr ⟨member, different⟩)

theorem ascending_insert (ascending : Ascending stations) (station : Station) :
    Ascending (insert station stations) := by
  induction stations with
  | nil => exact List.pairwise_singleton _ _
  | cons first rest ih =>
      obtain ⟨first_lt, rest_ascending⟩ := List.pairwise_cons.mp ascending
      rw [insert]
      split_ifs with before same
      · refine List.pairwise_cons.mpr ⟨List.forall_mem_cons.mpr ⟨before, ?_⟩, ascending⟩
        exact fun other member => before.trans (first_lt other member)
      · refine List.pairwise_cons.mpr ⟨?_, rest_ascending⟩
        rwa [same]
      · refine List.pairwise_cons.mpr ⟨fun other member => ?_, ih rest_ascending⟩
        rcases (mem_insert rest_ascending).mp member with rfl | ⟨behind, -⟩
        · exact lt_of_le_of_ne (le_of_not_gt before) (Ne.symm same)
        · exact first_lt other behind

theorem holds_insert (ascending : Ascending stations) :
    holds (insert station stations) name = true ↔
      name = station.name ∨ holds stations name = true := by
  simp only [holds_iff, mem_insert ascending]
  constructor
  · rintro ⟨other, rfl | ⟨member, -⟩, name_eq⟩
    · exact .inl name_eq.symm
    · exact .inr ⟨other, member, name_eq⟩
  · intro held
    by_cases same : name = station.name
    · exact ⟨station, .inl rfl, same.symm⟩
    · obtain ⟨other, member, rfl⟩ := held.resolve_left same
      exact ⟨other, .inr ⟨member, same⟩, rfl⟩

/-! ## The ends of the menu -/

theorem firstName_eq_none_iff : firstName stations = none ↔ stations = [] := by
  rw [firstName, Option.map_eq_none_iff, List.head?_eq_none_iff]

theorem lastName_eq_none_iff : lastName stations = none ↔ stations = [] := by
  rw [lastName, Option.map_eq_none_iff, List.getLast?_eq_none_iff]

theorem holds_of_firstName (found : firstName stations = some name) :
    holds stations name = true := by
  obtain ⟨station, head_eq, name_eq⟩ := Option.map_eq_some_iff.mp found
  exact holds_iff.mpr ⟨station, List.mem_of_mem_head? head_eq, name_eq⟩

theorem holds_of_lastName (found : lastName stations = some name) :
    holds stations name = true := by
  obtain ⟨station, last_eq, name_eq⟩ := Option.map_eq_some_iff.mp found
  exact holds_iff.mpr ⟨station, List.mem_of_getLast? last_eq, name_eq⟩

theorem holds_of_holds_filter {isKept : Station → Bool}
    (held : holds (stations.filter isKept) name = true) : holds stations name = true := by
  obtain ⟨station, member, name_eq⟩ := holds_iff.mp held
  exact holds_iff.mpr ⟨station, List.mem_of_mem_filter member, name_eq⟩

theorem Ascending.firstName_le (ascending : Ascending stations)
    (found : firstName stations = some name) : ∀ other ∈ stations, name ≤ other.name := by
  cases stations with
  | nil => cases found
  | cons first rest =>
      cases found
      obtain ⟨first_lt, -⟩ := List.pairwise_cons.mp ascending
      exact List.forall_mem_cons.mpr ⟨le_rfl, fun other member => (first_lt other member).le⟩

/-- The first name is the least one. -/
theorem Ascending.firstName_eq_some_iff (ascending : Ascending stations) :
    firstName stations = some name ↔
      holds stations name = true ∧ ∀ other ∈ stations, name ≤ other.name := by
  refine ⟨fun found => ⟨holds_of_firstName found, ascending.firstName_le found⟩, ?_⟩
  rintro ⟨held, least⟩
  obtain ⟨station, member, name_eq⟩ := holds_iff.mp held
  cases found : firstName stations with
  | none =>
      rw [firstName_eq_none_iff.mp found] at member
      exact absurd member List.not_mem_nil
  | some first =>
      obtain ⟨other, other_mem, rfl⟩ := holds_iff.mp (holds_of_firstName found)
      have first_le := ascending.firstName_le found station member
      rw [le_antisymm (name_eq ▸ first_le) (least other other_mem)]

/-! ## The selection when stations are dropped -/

/-- The first name that is not before a given one. -/
def nameFrom (stations : List Station) (name : String) : Option String :=
  firstName (stations.filter fun station => name ≤ station.name)

/-- A selected name is replaced by the first one from it on, around the end. -/
theorem Ascending.reselect_some (ascending : Ascending stations) (name : String) :
    reselect stations (some name) = (nameFrom stations name).or (firstName stations) := by
  rw [reselect, Option.bind_some]
  split_ifs with held
  · have from_eq : nameFrom stations name = some name := by
      obtain ⟨station, member, name_eq⟩ := holds_iff.mp held
      rw [nameFrom, (ascending.filter _).firstName_eq_some_iff, holds_iff]
      refine ⟨⟨station, List.mem_filter.mpr ⟨member, ?_⟩, name_eq⟩, fun other inside => ?_⟩
      · rw [name_eq, decide_eq_true_eq]
      · exact of_decide_eq_true (List.mem_filter.mp inside).2
    rw [from_eq, Option.some_or]
  · have same : ∀ station ∈ stations,
        decide (name < station.name) = decide (name ≤ station.name) := by
      intro station member
      have different : name ≠ station.name := fun name_eq =>
        held (holds_iff.mpr ⟨station, member, name_eq.symm⟩)
      exact decide_eq_decide.mpr different.le_iff_lt.symm
    rw [nameAfter, List.filter_congr same, nameFrom]

/-- Dropping some stations before others makes no difference to the selection. -/
theorem Ascending.reselect_reselect (ascending : Ascending stations) (isKept : Station → Bool)
    (selected : Option String) :
    reselect (stations.filter isKept) (reselect stations selected) =
      reselect (stations.filter isKept) selected := by
  cases selected with
  | none => rfl
  | some name =>
      have kept_ascending := ascending.filter isKept
      rw [ascending.reselect_some, kept_ascending.reselect_some]
      cases from_eq : nameFrom stations name with
      | some next =>
          -- No station stands between the two names.
          have next_le := (ascending.filter _).firstName_le from_eq
          have name_le : name ≤ next := by
            obtain ⟨station, inside, rfl⟩ := holds_iff.mp (holds_of_firstName from_eq)
            exact of_decide_eq_true (List.mem_filter.mp inside).2
          have same : ∀ station ∈ stations.filter isKept,
              decide (next ≤ station.name) = decide (name ≤ station.name) := by
            intro station member
            refine decide_eq_decide.mpr ⟨name_le.trans, fun behind => ?_⟩
            have inside := List.mem_of_mem_filter member
            exact next_le station (List.mem_filter.mpr ⟨inside, decide_eq_true behind⟩)
          rw [Option.some_or, kept_ascending.reselect_some, nameFrom, List.filter_congr same,
            nameFrom]
      | none =>
          have before : ∀ station ∈ stations, ¬name ≤ station.name := by
            intro station member behind
            have absent := List.filter_eq_nil_iff.mp (firstName_eq_none_iff.mp from_eq)
            exact absent station member (decide_eq_true behind)
          have kept_from : nameFrom (stations.filter isKept) name = none := by
            rw [nameFrom, firstName_eq_none_iff, List.filter_eq_nil_iff]
            exact fun station member behind =>
              before station (List.mem_of_mem_filter member) (of_decide_eq_true behind)
          rw [Option.none_or, kept_from, Option.none_or]
          cases first_eq : firstName stations with
          | none =>
              rw [firstName_eq_none_iff.mp first_eq]
              rfl
          | some first =>
              have all : ∀ station ∈ stations.filter isKept,
                  decide (first ≤ station.name) = true := fun station member =>
                decide_eq_true
                  (ascending.firstName_le first_eq station (List.mem_of_mem_filter member))
              rw [kept_ascending.reselect_some, nameFrom, List.filter_eq_self.mpr all,
                Option.or_self]

end Roster
end AudioMulticast
