import AudioMulticast.Playback.Window
import Mathlib.Data.List.Sort

/-!
# Ids at equal distances

The ids of a stream are the multiples of the payload length.  A stride lists those from one id up to
another exclusively; strides can be cut at any id of the stream, and the search for skipped ids is
one.
-/

namespace AudioMulticast
namespace Playback

/-- The numbers from `start` up to `stop` exclusively, `length` apart. -/
def stride (length start stop : Nat) : List Nat :=
  List.range' start ((stop - start) / length) length

variable {length start middle stop : Nat}

theorem mem_stride (length_pos : 0 < length) (start_dvd : length ∣ start) (stop_dvd : length ∣ stop)
    {id : Nat} : id ∈ stride length start stop ↔ length ∣ id ∧ start ≤ id ∧ id < stop := by
  rw [stride, List.mem_range']
  constructor
  · rintro ⟨position, inside, rfl⟩
    have reached := (Nat.le_div_iff_mul_le length_pos).mp inside
    rw [Nat.succ_mul, Nat.mul_comm] at reached
    exact ⟨Nat.dvd_add start_dvd (Nat.dvd_mul_right length position), by omega, by omega⟩
  · rintro ⟨id_dvd, start_le, id_lt⟩
    obtain ⟨position, position_eq⟩ := Nat.dvd_sub id_dvd start_dvd
    refine ⟨position, ?_, by omega⟩
    apply lt_of_not_ge
    intro reached
    have stop_le := Nat.mul_le_mul_left length reached
    rw [Nat.mul_div_cancel' (Nat.dvd_sub stop_dvd start_dvd)] at stop_le
    omega

theorem start_le_of_mem_stride {id : Nat} (member : id ∈ stride length start stop) :
    start ≤ id := by
  obtain ⟨position, -, rfl⟩ := List.mem_range'.mp member
  exact Nat.le_add_right _ _

theorem add_length_le_of_mem_stride (length_pos : 0 < length) {id : Nat}
    (member : id ∈ stride length start stop) : id + length ≤ stop := by
  obtain ⟨position, inside, rfl⟩ := List.mem_range'.mp member
  have reached : (position + 1) * length ≤ stop - start := Nat.mul_le_of_le_div _ _ _ inside
  rw [Nat.succ_mul, Nat.mul_comm] at reached
  omega

theorem pairwise_stride (length_pos : 0 < length) : (stride length start stop).Pairwise (· < ·) :=
  List.pairwise_lt_range' _ length_pos

theorem stride_eq_nil (stop_le : stop ≤ start) : stride length start stop = [] := by
  rw [stride, Nat.sub_eq_zero_of_le stop_le, Nat.zero_div]
  rfl

theorem stride_eq_cons (length_pos : 0 < length) (fits : start + length ≤ stop) :
    stride length start stop = start :: stride length (start + length) stop := by
  have count : (stop - start) / length = (stop - (start + length)) / length + 1 := by
    rw [← Nat.add_div_right _ length_pos]
    congr 1
    omega
  rw [stride, count, List.range'_succ]
  rfl

theorem stride_append (start_le : start ≤ middle) (middle_le : middle ≤ stop)
    (dvd : length ∣ middle - start) :
    stride length start middle ++ stride length middle stop = stride length start stop := by
  have reached : start + length * ((middle - start) / length) = middle := by
    rw [Nat.mul_div_cancel' dvd]
    omega
  have count : (stop - start) / length = (middle - start) / length + (stop - middle) / length := by
    obtain ⟨steps, steps_eq⟩ := dvd
    rcases Nat.eq_zero_or_pos length with rfl | length_pos
    · simp only [Nat.div_zero]
    · have stop_eq : stop - start = stop - middle + length * steps := by omega
      rw [stop_eq, steps_eq, Nat.add_mul_div_left _ _ length_pos,
        Nat.mul_div_cancel_left _ length_pos, Nat.add_comm]
  rw [stride, stride, stride, count, ← List.range'_append, reached]

/-- A stride goes on where another one ends, or where it begins if the other one is empty. -/
theorem stride_append_max (start_dvd : length ∣ start) (middle_dvd : length ∣ middle)
    (middle_le : middle ≤ stop) :
    stride length start middle ++ stride length (max middle start) stop =
      stride length start stop := by
  rcases Nat.le_total start middle with before | behind
  · rw [max_eq_left before]
    exact stride_append before middle_le (Nat.dvd_sub middle_dvd start_dvd)
  · rw [max_eq_right behind, stride_eq_nil behind, List.nil_append]

theorem stride_append_stop (length_pos : 0 < length) (start_le : start ≤ stop)
    (dvd : length ∣ stop - start) :
    stride length start stop ++ [stop] = stride length start (stop + length) := by
  have last : stride length stop (stop + length) = [stop] := by
    rw [stride_eq_cons length_pos (Nat.le_refl _), stride_eq_nil (Nat.le_refl _)]
  rw [← last]
  exact stride_append start_le (Nat.le_add_right _ _) dvd

/-- Dropping from the front leaves the stride that begins later, which may be empty. -/
theorem drop_stride (start_le : start ≤ middle) (dvd : length ∣ middle - start) :
    (stride length start stop).drop ((middle - start) / length) = stride length middle stop := by
  have reached : start + (middle - start) / length * length = middle := by
    rw [Nat.div_mul_cancel dvd]
    omega
  have count : (stop - start) / length - (middle - start) / length = (stop - middle) / length := by
    obtain ⟨steps, steps_eq⟩ := dvd
    rcases Nat.eq_zero_or_pos length with rfl | length_pos
    · simp only [Nat.div_zero, Nat.sub_self]
    · rw [steps_eq, Nat.mul_div_cancel_left _ length_pos, ← Nat.sub_mul_div]
      congr 1
      omega
  rw [stride, List.drop_range', reached, count, stride]

theorem getElem?_stride (length_pos : 0 < length) (start_dvd : length ∣ start) {id : Nat}
    (id_dvd : length ∣ id) (start_le : start ≤ id) (id_lt : id + length ≤ stop) :
    (stride length start stop)[(id - start) / length]? = some id := by
  obtain ⟨position, position_eq⟩ := Nat.dvd_sub id_dvd start_dvd
  have inside : position < (stop - start) / length := by
    rw [Nat.lt_iff_add_one_le, Nat.le_div_iff_mul_le length_pos, Nat.add_mul, Nat.mul_comm]
    omega
  rw [position_eq, Nat.mul_div_cancel_left _ length_pos, stride, List.getElem?_range' inside]
  congr 1
  omega

/-- Setting the value at an id of a stride changes the function whose values are listed. -/
theorem set_map_stride {α : Type} (length_pos : 0 < length) (start_dvd : length ∣ start)
    (values : Nat → α) {id : Nat} (id_dvd : length ∣ id) (start_le : start ≤ id) (value : α) :
    ((stride length start stop).map values).set ((id - start) / length) value =
      (stride length start stop).map (Function.update values id value) := by
  obtain ⟨position, position_eq⟩ := Nat.dvd_sub id_dvd start_dvd
  rw [position_eq, Nat.mul_div_cancel_left _ length_pos]
  apply List.ext_getElem (by simp)
  intro index _ _
  simp only [stride, List.getElem_set, List.getElem_map, List.getElem_range', Function.update_apply]
  have same_iff : position = index ↔ start + length * index = id := by
    constructor
    · rintro rfl
      omega
    · intro same
      exact Nat.eq_of_mul_eq_mul_left length_pos (by omega)
  by_cases same : position = index
  · rw [if_pos same, if_pos (same_iff.mp same)]
  · rw [if_neg same, if_neg (same_iff.not.mp same)]

/-- The search for the ids before a packet of the stream finds a stride, and does not overflow. -/
theorem exists_idsBetween {next : Nat} {stop : PacketId} (length_pos : 0 < length)
    (next_le : next ≤ stop.val) (dvd : length ∣ stop.val - next) :
    ∃ ids, idsBetween length stop next = .ok ids ∧
      ids.map Fin.val = stride length next stop.val := by
  obtain ⟨count, count_eq⟩ := dvd
  induction count generalizing next with
  | zero =>
      refine ⟨[], ?_, (stride_eq_nil (by omega)).symm⟩
      rw [idsBetween, dif_neg (by omega)]
  | succ count ih =>
      rw [Nat.mul_succ] at count_eq
      have stop_lt := stop.isLt
      have length_le : length ≤ stop.val - next := by
        rw [count_eq]
        exact Nat.le_add_left _ _
      have rest_eq : stop.val - (next + length) = length * count := by omega
      obtain ⟨ids, found, values⟩ := ih (by omega) rest_eq
      have inside : next < stop.val ∧ 0 < length := by omega
      refine ⟨⟨next, by omega⟩ :: ids, ?_, ?_⟩
      · rw [idsBetween, dif_pos inside, if_pos (by omega), found]
        rfl
      · have fits : next + length ≤ stop.val := by omega
        rw [List.map_cons, values, stride_eq_cons length_pos fits]

end Playback
end AudioMulticast
