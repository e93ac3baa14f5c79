import AudioMulticast.Playback.GapSchedule
import Mathlib.Order.Fin.Basic
import Std.Data.TreeMap.Lemmas

/-!
# The schedule, packet by packet

What each operation of the schedule does to the time of a single packet.  Nothing else is used of
the schedule, so the order in which it walks through packets does not matter.
-/

namespace AudioMulticast
namespace Playback
namespace GapSchedule

/-- When a packet is due, if it is in the schedule. -/
def dueTime? (schedule : GapSchedule) (id : PacketId) : Option Nat :=
  schedule.dueTimes[id]?

variable {schedule : GapSchedule} {ids : List PacketId} {id : PacketId} {now : Nat}

theorem mem_dueTimes_iff : id ∈ schedule.dueTimes ↔ (schedule.dueTime? id).isSome :=
  Std.TreeMap.mem_iff_isSome_getElem?

theorem dueTime?_clear : schedule.clear.dueTime? id = none :=
  Std.TreeMap.getElem?_emptyc

/-- A packet that is added keeps the time that it has. -/
theorem dueTime?_add :
    (schedule.add ids now).dueTime? id =
      (schedule.dueTime? id).or (if id ∈ ids then some (now + schedule.interval) else none) := by
  obtain ⟨interval, dueTimes⟩ := schedule
  simp only [add, dueTime?]
  induction ids generalizing dueTimes with
  | nil => rw [List.foldl_nil, if_neg List.not_mem_nil, Option.or_none]
  | cons first ids ih =>
      rw [List.foldl_cons, ih, Std.TreeMap.getElem?_insertIfNew]
      simp only [Std.LawfulEqCmp.compare_eq_iff_eq, List.mem_cons]
      by_cases same : id = first
      · subst same
        cases found : dueTimes[id]? with
        | none =>
            have absent : id ∉ dueTimes := by
              rw [Std.TreeMap.mem_iff_isSome_getElem?, found]
              rintro ⟨⟩
            simp [absent]
        | some time =>
            have present : id ∈ dueTimes := by
              rw [Std.TreeMap.mem_iff_isSome_getElem?, found]
              rfl
            simp [present]
      · have different : first ≠ id := fun equal => same equal.symm
        simp only [different, same, false_and, false_or, if_false]

theorem dueTime?_forget :
    (schedule.forget ids).dueTime? id = if id ∈ ids then none else schedule.dueTime? id := by
  obtain ⟨interval, dueTimes⟩ := schedule
  simp only [forget, dueTime?]
  induction ids generalizing dueTimes with
  | nil => rw [List.foldl_nil, if_neg List.not_mem_nil]
  | cons first ids ih =>
      rw [List.foldl_cons, ih, Std.TreeMap.getElem?_erase]
      simp only [Std.LawfulEqCmp.compare_eq_iff_eq, List.mem_cons]
      by_cases same : id = first
      · simp only [same, if_true, true_or, ite_self]
      · have different : first ≠ id := fun equal => same equal.symm
        simp only [different, same, false_or, if_false]

theorem dueTime?_postpone :
    (schedule.postpone ids now).dueTime? id =
      if id ∈ ids then some (now + schedule.interval) else schedule.dueTime? id := by
  obtain ⟨interval, dueTimes⟩ := schedule
  simp only [postpone, dueTime?]
  induction ids generalizing dueTimes with
  | nil => rw [List.foldl_nil, if_neg List.not_mem_nil]
  | cons first ids ih =>
      rw [List.foldl_cons, ih, Std.TreeMap.getElem?_insert]
      simp only [Std.LawfulEqCmp.compare_eq_iff_eq, List.mem_cons]
      by_cases same : id = first
      · simp only [same, if_true, true_or, ite_self]
      · have different : first ≠ id := fun equal => same equal.symm
        simp only [different, same, false_or, if_false]

theorem mem_due :
    id ∈ schedule.due now ↔ ∃ time, schedule.dueTime? id = some time ∧ time ≤ now := by
  simp only [due, List.mem_map, List.mem_filter, decide_eq_true_eq, dueTime?]
  constructor
  · rintro ⟨⟨_, time⟩, ⟨entry, time_le⟩, rfl⟩
    exact ⟨time, Std.TreeMap.mem_toList_iff_getElem?_eq_some.mp entry, time_le⟩
  · rintro ⟨time, found, time_le⟩
    exact ⟨(id, time), ⟨Std.TreeMap.mem_toList_iff_getElem?_eq_some.mpr found, time_le⟩, rfl⟩

/-- What is due is listed in ascending order. -/
theorem pairwise_due : (schedule.due now).Pairwise (· < ·) := by
  have kept : ((schedule.dueTimes.toList.filter fun entry => entry.2 ≤ now).map Prod.fst).Sublist
      schedule.dueTimes.keys := by
    rw [← Std.TreeMap.map_fst_toList_eq_keys]
    exact List.filter_sublist.map Prod.fst
  refine (Std.TreeMap.ordered_keys.sublist kept).imp ?_
  intro first second before
  exact compare_lt_iff_lt.mp before

theorem mem_next {forgotten : List PacketId} :
    id ∈ (schedule.next forgotten now).2 ↔
      id ∉ forgotten ∧ ∃ time, schedule.dueTime? id = some time ∧ time ≤ now := by
  rw [next, mem_due, dueTime?_forget]
  by_cases member : id ∈ forgotten
  · simp [member]
  · simp [member]

/-- A packet that is answered is put off, and a packet that is forgotten is not in the schedule any
more. -/
theorem dueTime?_next {forgotten : List PacketId} :
    (schedule.next forgotten now).1.dueTime? id =
      if id ∈ (schedule.next forgotten now).2 then some (now + schedule.interval)
      else if id ∈ forgotten then none
      else schedule.dueTime? id := by
  rw [next, dueTime?_postpone, dueTime?_forget]
  rfl

/-! ## Which packets are in the schedule -/

theorem isSome_dueTime?_add :
    ((schedule.add ids now).dueTime? id).isSome ↔ (schedule.dueTime? id).isSome ∨ id ∈ ids := by
  rw [dueTime?_add, Option.isSome_or, Bool.or_eq_true]
  by_cases member : id ∈ ids
  · simp [member]
  · simp [member]

/-- A round leaves all packets in the schedule but those that it is given. -/
theorem isSome_dueTime?_next {forgotten : List PacketId} :
    ((schedule.next forgotten now).1.dueTime? id).isSome ↔
      (schedule.dueTime? id).isSome ∧ id ∉ forgotten := by
  rw [dueTime?_next]
  by_cases answered : id ∈ (schedule.next forgotten now).2
  · obtain ⟨kept, time, found, -⟩ := mem_next.mp answered
    simp [answered, kept, found]
  · by_cases member : id ∈ forgotten
    · simp [answered, member]
    · simp [answered, member]

theorem dueTime?_next_eq_none {forgotten : List PacketId}
    (absent : schedule.dueTime? id = none ∨ id ∈ forgotten) :
    (schedule.next forgotten now).1.dueTime? id = none := by
  rw [← Option.not_isSome_iff_eq_none, isSome_dueTime?_next]
  rintro ⟨scheduled, kept⟩
  rcases absent with before | told
  · simp [before] at scheduled
  · exact kept told

end GapSchedule
end Playback
end AudioMulticast
