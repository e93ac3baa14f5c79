import AudioMulticast.Proofs.Playback.JournalWindow
import AudioMulticast.Proofs.Playback.WindowTrace
import Mathlib.Data.List.Induction

/-!
# Windows with contiguous slots

A window has a slot for each packet from its front to its back, at every moment of its use.  A packet
behind the back moves it to its place in one go, and the window is then the same as if a slot had been
opened for each packet on the way, one after another, and slots had been dropped at the front whenever
there were too many.
-/

namespace AudioMulticast
namespace Playback

/-! ## Single steps -/

/-- Drop slots at the front, one after another, as long as there are more than `capacity`.  The front
moves on by `length` with each. -/
def shed (length capacity : Nat) : Nat → List (Option Bytes) → Nat × List (Option Bytes)
  | front, [] => (front, [])
  | front, slot :: slots =>
      if capacity < slots.length + 1 then
        shed length capacity (front + length) slots
      else
        (front, slot :: slots)

theorem shed_eq (length capacity front : Nat) (slots : List (Option Bytes)) :
    shed length capacity front slots =
      (front + length * (slots.length - capacity), slots.drop (slots.length - capacity)) := by
  induction slots generalizing front with
  | nil => simp [shed]
  | cons slot slots ih =>
      rw [shed, List.length_cons]
      split_ifs with long
      · have surplus_eq : slots.length + 1 - capacity = slots.length - capacity + 1 := by omega
        rw [ih, surplus_eq, List.drop_succ_cons, Nat.mul_succ, Nat.add_assoc,
          Nat.add_comm length]
      · rw [Nat.sub_eq_zero_of_le (Nat.le_of_not_lt long), Nat.mul_zero, Nat.add_zero,
          List.drop_zero]

namespace WindowSession

/-- Open a slot for the packet that follows the back. -/
def append (session : WindowSession) (id : Nat) (slot : Option Bytes) : WindowSession :=
  let (front, slots) :=
    shed session.payloadLength session.capacity session.front (session.slots ++ [slot])
  { session with front, back := id, slots }

/-- The ids between the back and a packet behind it. -/
def skipped (session : WindowSession) (id : PacketId) : List Nat :=
  stride session.payloadLength (session.back + session.payloadLength) id.val

/-- Move the back to a packet behind it, with a step for each packet on the way. -/
def stepTo (session : WindowSession) (id : PacketId) (payload : Bytes) : WindowSession :=
  let reached := (session.skipped id).foldl (fun session other => session.append other none) session
  reached.append id.val (some payload)

/-- The window after some slots have been opened behind the back. -/
def opened (session : WindowSession) (back : Nat) (slots : List (Option Bytes)) : WindowSession :=
  let surplus := session.slots.length + slots.length - session.capacity
  { session with
    front := session.front + session.payloadLength * surplus
    back
    slots := (session.slots ++ slots).drop surplus }

variable {session : WindowSession} {id : PacketId} {payload : Bytes}

theorem opened_nil (fits : session.slots.length ≤ session.capacity) :
    session.opened session.back [] = session := by
  simp [opened, Nat.sub_eq_zero_of_le fits]

theorem append_eq (session : WindowSession) (id : Nat) (slot : Option Bytes) :
    session.append id slot = session.opened id [slot] := by
  rw [append, shed_eq, List.length_append]
  rfl

/-- Slots can be opened in two parts. -/
theorem opened_opened (session : WindowSession) (back id : Nat) (slots more : List (Option Bytes)) :
    (session.opened back slots).opened id more = session.opened id (slots ++ more) := by
  let surplus := session.slots.length + slots.length - session.capacity
  let later := (session.slots.length + slots.length - surplus) + more.length - session.capacity
  have length_eq : (session.opened back slots).slots.length =
      session.slots.length + slots.length - surplus := by
    simp only [opened, List.length_drop, List.length_append, surplus]
  have total_eq : session.slots.length + (slots ++ more).length - session.capacity =
      surplus + later := by
    rw [List.length_append]
    omega
  have surplus_le : surplus ≤ (session.slots ++ slots).length := by
    rw [List.length_append]
    omega
  rw [opened, length_eq]
  simp only [opened, total_eq]
  rw [← List.drop_append_of_le_length surplus_le, List.drop_drop, List.append_assoc, Nat.mul_add,
    Nat.add_assoc]

theorem foldl_append_eq (fits : session.slots.length ≤ session.capacity) (ids : List Nat) :
    ∃ back, ids.foldl (fun session other => session.append other none) session =
      session.opened back (ids.map fun _ => none) := by
  induction ids using List.reverseRecOn with
  | nil => exact ⟨session.back, (opened_nil fits).symm⟩
  | append_singleton ids id ih =>
      obtain ⟨back, reached⟩ := ih
      refine ⟨id, ?_⟩
      rw [List.foldl_concat, reached, append_eq, opened_opened, List.map_append, List.map_singleton]

/-- Where single steps lead to. -/
theorem stepTo_eq_opened (fits : session.slots.length ≤ session.capacity) (id : PacketId)
    (payload : Bytes) :
    session.stepTo id payload =
      session.opened id.val ((session.skipped id).map (fun _ => none) ++ [some payload]) := by
  obtain ⟨back, reached⟩ := foldl_append_eq fits (session.skipped id)
  rw [stepTo, reached, append_eq, opened_opened]

/-! ## Contiguous slots -/

/-- What holds of every window: there is a slot for each packet from the front to the back, so that
the front of a window without slots is one step behind the back. -/
structure IsContiguous (session : WindowSession) : Prop where
  length_pos : 0 < session.payloadLength
  capacity_pos : 0 < session.capacity
  reach_lt : (session.capacity - 1) * session.payloadLength < Word.count
  front_dvd : session.payloadLength ∣ session.front
  span_eq : session.front + session.payloadLength * session.slots.length =
    session.back + session.payloadLength
  slots_le : session.slots.length ≤ session.capacity

/-- Number of slots that are dropped on the way to a packet. -/
def surplus (session : WindowSession) (id : PacketId) : Nat :=
  session.slots.length + ((session.skipped id).length + 1) - session.capacity

/-- Where the search for the skipped packets that are still inside the window begins. -/
def searchStart (session : WindowSession) (id : PacketId) : Nat :=
  max (session.back + session.payloadLength)
    (session.front + session.payloadLength * session.surplus id)

namespace IsContiguous

theorem back_dvd (contiguous : session.IsContiguous) : session.payloadLength ∣ session.back := by
  rw [← Nat.dvd_add_self_right, ← contiguous.span_eq]
  exact Nat.dvd_add contiguous.front_dvd (Nat.dvd_mul_right _ _)

/-- A packet behind the back is a whole step behind it. -/
theorem back_add_le (contiguous : session.IsContiguous)
    (aligned : session.payloadLength ∣ id.val) (back_lt : session.back < id.val) :
    session.back + session.payloadLength ≤ id.val := by
  have step_le := Nat.le_of_dvd (by omega) (Nat.dvd_sub aligned contiguous.back_dvd)
  omega

theorem front_le (contiguous : session.IsContiguous) (aligned : session.payloadLength ∣ id.val)
    (back_lt : session.back < id.val) : session.front ≤ id.val := by
  have step_le := contiguous.back_add_le aligned back_lt
  have span_eq := contiguous.span_eq
  omega

/-- The packet has the slot behind all that there are and all that are skipped. -/
theorem front_add_eq (contiguous : session.IsContiguous)
    (aligned : session.payloadLength ∣ id.val) (back_lt : session.back < id.val) :
    session.front + session.payloadLength * (session.slots.length + (session.skipped id).length) =
      id.val := by
  have step_le := contiguous.back_add_le aligned back_lt
  have step_dvd : session.payloadLength ∣ id.val - (session.back + session.payloadLength) :=
    Nat.dvd_sub aligned (Nat.dvd_add_self_right.mpr contiguous.back_dvd)
  have skipped_eq : session.payloadLength * (session.skipped id).length =
      id.val - (session.back + session.payloadLength) := by
    rw [skipped, stride, List.length_range', Nat.mul_div_cancel' step_dvd]
  have span_eq := contiguous.span_eq
  rw [Nat.mul_add]
  omega

/-- The front of the window after a jump is where the front comes to in single steps. -/
theorem front_eq (contiguous : session.IsContiguous)
    (aligned : session.payloadLength ∣ id.val) (back_lt : session.back < id.val) :
    (if (session.capacity - 1) * session.payloadLength ≤ id.val then
        max (id.val - (session.capacity - 1) * session.payloadLength) session.front
      else session.front) =
      session.front + session.payloadLength * session.surplus id := by
  have reached := contiguous.front_add_eq aligned back_lt
  have capacity_pos := contiguous.capacity_pos
  rw [Nat.mul_comm]
  -- Either there is room for all slots and the front stays, or the front follows the packet.
  rcases Nat.lt_or_ge (session.slots.length + (session.skipped id).length) session.capacity with
    few | many
  · have surplus_eq : session.surplus id = 0 := by
      rw [surplus]
      omega
    have within := Nat.mul_le_mul_left session.payloadLength (Nat.le_sub_one_of_lt few)
    rw [surplus_eq, Nat.mul_zero, Nat.add_zero]
    split_ifs
    · omega
    · rfl
  · have split_eq : session.slots.length + (session.skipped id).length =
        (session.capacity - 1) + session.surplus id := by
      rw [surplus]
      omega
    rw [split_eq, Nat.mul_add] at reached
    rw [if_pos (by omega)]
    omega

/-- The search for the ids that are still inside the window finds the last of those skipped. -/
theorem drop_skipped (contiguous : session.IsContiguous) (id : PacketId) :
    stride session.payloadLength (session.searchStart id) id.val =
      (session.skipped id).drop (session.surplus id - session.slots.length) := by
  have start_eq : session.searchStart id = session.back + session.payloadLength +
      session.payloadLength * (session.surplus id - session.slots.length) := by
    rw [searchStart, ← contiguous.span_eq, Nat.add_max_add_left, Nat.mul_max_mul_left,
      Nat.add_assoc, ← Nat.mul_add]
    congr 2
    omega
  have steps_eq : session.searchStart id - (session.back + session.payloadLength) =
      session.payloadLength * (session.surplus id - session.slots.length) := by
    rw [start_eq, Nat.add_sub_cancel_left]
  have steps_dvd : session.payloadLength ∣
      session.searchStart id - (session.back + session.payloadLength) := by
    rw [steps_eq]
    exact Nat.dvd_mul_right _ _
  have back_le : session.back + session.payloadLength ≤ session.searchStart id :=
    Nat.le_max_left _ _
  rw [skipped, ← drop_stride back_le steps_dvd, steps_eq,
    Nat.mul_div_cancel_left _ contiguous.length_pos]

/-- The window after single steps.  Of the slots that there are and of those of the skipped packets,
the last ones are left. -/
theorem stepTo_eq (contiguous : session.IsContiguous) (id : PacketId) (payload : Bytes) :
    session.stepTo id payload =
      { session with
        front := session.front + session.payloadLength * session.surplus id
        back := id.val
        slots := session.slots.drop (session.surplus id) ++
          ((session.skipped id).drop (session.surplus id - session.slots.length)).map
            (fun _ => none) ++ [some payload] } := by
  have capacity_pos := contiguous.capacity_pos
  have kept_le : session.surplus id - session.slots.length ≤
      ((session.skipped id).map fun _ => (none : Option Bytes)).length := by
    rw [List.length_map, surplus]
    omega
  have surplus_eq : session.slots.length +
      ((session.skipped id).map (fun _ => none) ++ [some payload]).length - session.capacity =
        session.surplus id := by
    simp [surplus]
  rw [stepTo_eq_opened contiguous.slots_le, opened]
  simp only [surplus_eq]
  rw [List.drop_append, List.drop_append_of_le_length kept_le, List.map_drop, List.append_assoc]

theorem start_dvd (contiguous : session.IsContiguous) (id : PacketId) :
    session.payloadLength ∣ session.searchStart id :=
  max_rec' (session.payloadLength ∣ ·) (Nat.dvd_add_self_right.mpr contiguous.back_dvd)
    (Nat.dvd_add contiguous.front_dvd (Nat.dvd_mul_right _ _))

theorem start_le (contiguous : session.IsContiguous) (aligned : session.payloadLength ∣ id.val)
    (back_lt : session.back < id.val) : session.searchStart id ≤ id.val := by
  refine max_le (contiguous.back_add_le aligned back_lt) ?_
  have capacity_pos := contiguous.capacity_pos
  rw [← contiguous.front_add_eq aligned back_lt, surplus]
  exact Nat.add_le_add_left (Nat.mul_le_mul_left _ (by omega)) _

/-- The search for skipped packets does not overflow. -/
theorem exists_missed (contiguous : session.IsContiguous)
    (aligned : session.payloadLength ∣ id.val) (back_lt : session.back < id.val) :
    ∃ missed, idsBetween session.payloadLength id (session.searchStart id) = .ok missed ∧
      missed.map Fin.val = stride session.payloadLength (session.searchStart id) id.val :=
  exists_idsBetween contiguous.length_pos (contiguous.start_le aligned back_lt)
    (Nat.dvd_sub aligned (contiguous.start_dvd id))

/-- The slots for which a search has found the ids are those of the skipped packets that are left. -/
theorem map_none_eq (contiguous : session.IsContiguous) {missed : List PacketId}
    (values : missed.map Fin.val = stride session.payloadLength (session.searchStart id) id.val) :
    missed.map (fun _ => (none : Option Bytes)) =
      ((session.skipped id).drop (session.surplus id - session.slots.length)).map fun _ => none := by
  rw [← contiguous.drop_skipped, ← values, List.map_map]
  rfl

theorem extend_eq (contiguous : session.IsContiguous) (aligned : session.payloadLength ∣ id.val)
    (back_lt : session.back < id.val) {missed : List PacketId}
    (found : idsBetween session.payloadLength id (session.searchStart id) = .ok missed)
    (values : missed.map Fin.val = stride session.payloadLength (session.searchStart id) id.val)
    (payload : Bytes) :
    session.extend id payload = .ok (session.stepTo id payload, missed) := by
  have back_fits := contiguous.back_add_le aligned back_lt
  have moved_eq : (session.front + session.payloadLength * session.surplus id - session.front) /
      session.payloadLength = session.surplus id := by
    rw [Nat.add_sub_cancel_left, Nat.mul_div_cancel_left _ contiguous.length_pos]
  rw [extend, Word.mul_of_lt contiguous.reach_lt, Overflow.ok_bind,
    contiguous.front_eq aligned back_lt, Word.saturatingAdd_of_lt (by omega)]
  simp only [moved_eq]
  rw [← searchStart, found, Overflow.ok_bind, contiguous.map_none_eq values, contiguous.stepTo_eq]
  rfl

end IsContiguous

/-! ## Windows in use -/

theorem IsContiguous.stepTo (contiguous : session.IsContiguous)
    (aligned : session.payloadLength ∣ id.val) (back_lt : session.back < id.val)
    (payload : Bytes) : (session.stepTo id payload).IsContiguous := by
  have reached := contiguous.front_add_eq aligned back_lt
  have capacity_pos := contiguous.capacity_pos
  have length_eq : (session.stepTo id payload).slots.length =
      session.slots.length + (session.skipped id).length + 1 - session.surplus id := by
    rw [contiguous.stepTo_eq]
    simp only [List.length_append, List.length_drop, List.length_map, List.length_singleton,
      surplus]
    omega
  have whole_eq : session.surplus id + (session.stepTo id payload).slots.length =
      session.slots.length + (session.skipped id).length + 1 := by
    rw [length_eq, surplus]
    omega
  have slots_le : (session.stepTo id payload).slots.length ≤ session.capacity := by
    rw [length_eq, surplus]
    omega
  rw [contiguous.stepTo_eq] at whole_eq slots_le ⊢
  exact
    { length_pos := contiguous.length_pos
      capacity_pos := capacity_pos
      reach_lt := contiguous.reach_lt
      front_dvd := Nat.dvd_add contiguous.front_dvd (Nat.dvd_mul_right _ _)
      span_eq := by
        simp only [Nat.add_assoc, ← Nat.mul_add]
        rw [whole_eq, Nat.mul_add_one, ← Nat.add_assoc, reached]
      slots_le := slots_le }

theorem IsContiguous.place (contiguous : session.IsContiguous)
    (aligned : session.payloadLength ∣ id.val) {after : WindowSession} {missed : List PacketId}
    (placed : session.place id payload = .ok (after, missed)) : after.IsContiguous := by
  rw [WindowSession.place] at placed
  split_ifs at placed with before inside
  · cases placed
    exact contiguous
  · cases placed
    have length_eq : (session.fill id payload).slots.length = session.slots.length :=
      List.length_set
    exact ⟨contiguous.length_pos, contiguous.capacity_pos, contiguous.reach_lt,
      contiguous.front_dvd, length_eq ▸ contiguous.span_eq, length_eq ▸ contiguous.slots_le⟩
  · have back_lt := Nat.lt_of_not_le inside
    obtain ⟨_, found, values⟩ := contiguous.exists_missed aligned back_lt
    cases (contiguous.extend_eq aligned back_lt found values payload).symm.trans placed
    exact contiguous.stepTo aligned back_lt payload

theorem IsContiguous.startAt (contiguous : session.IsContiguous) (id : PacketId) :
    (session.startAt id).IsContiguous :=
  ⟨contiguous.length_pos, contiguous.capacity_pos, contiguous.reach_lt, contiguous.front_dvd,
    contiguous.span_eq, contiguous.slots_le⟩

theorem IsContiguous.advance (contiguous : session.IsContiguous) {slot : Option Bytes}
    {slots : List (Option Bytes)} (slots_eq : session.slots = slot :: slots) :
    { session with front := session.front + session.payloadLength, slots }.IsContiguous := by
  have span_eq := contiguous.span_eq
  have slots_le := contiguous.slots_le
  rw [slots_eq, List.length_cons] at span_eq slots_le
  have advanced_eq : session.front + session.payloadLength + session.payloadLength * slots.length =
      session.back + session.payloadLength := by
    rw [← span_eq, Nat.mul_succ]
    omega
  exact
    { length_pos := contiguous.length_pos
      capacity_pos := contiguous.capacity_pos
      reach_lt := contiguous.reach_lt
      front_dvd := Nat.dvd_add_self_right.mpr contiguous.front_dvd
      span_eq := advanced_eq
      slots_le := Nat.le_of_succ_le slots_le }

theorem isContiguous_of_start {size : Nat} (size_lt : size < Word.count) (payload_ne : payload ≠ [])
    (aligned : payload.length ∣ id.val) (started : start size id payload = .ok session) :
    session.IsContiguous := by
  obtain ⟨tripled, -, measured⟩ := Overflow.bind_eq_ok_iff.mp started
  obtain ⟨distance, -, done⟩ := Overflow.bind_eq_ok_iff.mp measured
  cases done
  have whole_le : size / payload.length * payload.length ≤ size := Nat.div_mul_le_self _ _
  have reach_le : (max (size / payload.length) 1 - 1) * payload.length ≤
      size / payload.length * payload.length :=
    Nat.mul_le_mul_right _ (by generalize size / payload.length = whole; omega)
  exact
    { length_pos := List.length_pos_iff.mpr payload_ne
      capacity_pos := Nat.lt_of_lt_of_le Nat.one_pos (Nat.le_max_right _ _)
      reach_lt := Nat.lt_of_le_of_lt (reach_le.trans whole_le) size_lt
      front_dvd := aligned
      span_eq := by simp
      slots_le := Nat.le_max_right _ _ }

end WindowSession

namespace Window

/-- A window of any size in words that is empty, or whose slots are contiguous. -/
structure IsContiguous (window : Window) : Prop where
  size_lt : window.size < Word.count
  session : ∀ session, window.session = some session → session.IsContiguous

variable {window after : Window}

variable {id : PacketId} {payload : Bytes} {missed : List PacketId}

theorem store_of_write (written : window.write id payload = .ok (.ok (after, missed))) :
    window.rejection? id payload = none ∧ window.store id payload = .ok (after, missed) := by
  cases accepted : window.rejection? id payload with
  | some rejection =>
      rw [Window.write, accepted] at written
      cases written
  | none =>
      rw [Window.write, accepted] at written
      obtain ⟨stored, stored_eq, done⟩ := Overflow.map_eq_ok_iff.mp written
      cases done
      exact ⟨rfl, stored_eq⟩

theorem IsContiguous.aligned (contiguous : window.IsContiguous) {session : WindowSession}
    (found : window.session = some session) (accepted : window.rejection? id payload = none) :
    session.payloadLength ∣ id.val := by
  simp only [rejection?, found] at accepted
  split_ifs at accepted with length_ne aligned
  exact (PacketId.isAligned_iff (contiguous.session session found).length_pos).mp aligned

/-- Storing a packet of an open session is placing it. -/
theorem exists_place_of_store {session : WindowSession} (found : window.session = some session)
    (stored : window.store id payload = .ok (after, missed)) :
    ∃ placed, session.place id payload = .ok (placed, missed) ∧
      after = { window with session := some (placed.startAt id) } := by
  simp only [Window.store, found] at stored
  obtain ⟨⟨placed, revealed⟩, placed_eq, done⟩ := Overflow.bind_eq_ok_iff.mp stored
  cases done
  exact ⟨placed, placed_eq, rfl⟩

theorem exists_start_of_store (found : window.session = none)
    (stored : window.store id payload = .ok (after, missed)) :
    ∃ started, WindowSession.start window.size id payload = .ok started ∧
      after = { window with session := some (started.startAt id) } := by
  simp only [Window.store, found] at stored
  obtain ⟨placed, placed_eq, done⟩ := Overflow.bind_eq_ok_iff.mp stored
  obtain ⟨started, started_eq, view_eq⟩ := Overflow.map_eq_ok_iff.mp placed_eq
  cases view_eq
  cases done
  exact ⟨started, started_eq, rfl⟩

theorem IsContiguous.write (contiguous : window.IsContiguous)
    (written : window.write id payload = .ok (.ok (after, missed))) : after.IsContiguous := by
  obtain ⟨accepted, stored⟩ := store_of_write written
  cases found : window.session with
  | none =>
      obtain ⟨started, started_eq, rfl⟩ := exists_start_of_store found stored
      simp only [rejection?, found] at accepted
      split_ifs at accepted with payload_eq aligned
      rw [PacketId.isAligned_iff (List.length_pos_iff.mpr payload_eq)] at aligned
      refine ⟨contiguous.size_lt, ?_⟩
      rintro _ ⟨⟩
      exact (WindowSession.isContiguous_of_start contiguous.size_lt payload_eq aligned
        started_eq).startAt id
  | some session =>
      obtain ⟨placed, placed_eq, rfl⟩ := exists_place_of_store found stored
      refine ⟨contiguous.size_lt, ?_⟩
      rintro _ ⟨⟩
      exact ((contiguous.session session found).place (contiguous.aligned found accepted)
        placed_eq).startAt id

theorem IsContiguous.read (contiguous : window.IsContiguous) {reading : Reading}
    (played : window.read = .ok (after, reading)) : after.IsContiguous := by
  obtain ⟨size, session⟩ := window
  simp only [Window.read] at played
  split at played
  · cases played
    exact contiguous
  · next session =>
    have session_contiguous := contiguous.session session rfl
    split_ifs at played with started
    · split at played
      · cases played
        exact contiguous
      · cases played
        exact contiguous
      · next payload slots slots_eq =>
        obtain ⟨front, front_eq, done⟩ := Overflow.bind_eq_ok_iff.mp played
        cases done
        rw [Word.add] at front_eq
        split_ifs at front_eq
        cases front_eq
        refine ⟨contiguous.size_lt, ?_⟩
        rintro _ ⟨⟩
        exact session_contiguous.advance slots_eq
    · cases played
      exact contiguous

theorem IsContiguous.perform (contiguous : window.IsContiguous) {call : WindowCall}
    {answer : WindowAnswer} (performed : window.perform call = .ok (after, answer)) :
    after.IsContiguous := by
  cases call with
  | write id payload =>
      obtain ⟨outcome, written, done⟩ := Overflow.bind_eq_ok_iff.mp performed
      rcases outcome with rejection | ⟨stored, missed⟩
      · cases done
        exact contiguous
      · cases done
        exact contiguous.write written
  | read =>
      obtain ⟨⟨_, reading⟩, played, done⟩ := Overflow.bind_eq_ok_iff.mp performed
      cases done
      exact contiguous.read played
  | covers id =>
      cases performed
      exact contiguous
  | isMissing id =>
      cases performed
      exact contiguous
  | reset =>
      cases performed
      exact ⟨contiguous.size_lt, by rintro _ ⟨⟩⟩

/-- At every moment of a run, the slots are contiguous and a call is carried out. -/
theorem IsContiguous.of_mem_trace (contiguous : window.IsContiguous) {calls : List WindowCall}
    {moments : List (Moment Window)} (traced : window.trace calls = .ok moments)
    {moment : Moment Window} (member : moment ∈ moments) :
    moment.before.IsContiguous ∧
      moment.before.perform moment.call = .ok (moment.after, moment.answer) := by
  induction calls generalizing window moments with
  | nil =>
      cases traced
      cases member
  | cons call calls ih =>
      obtain ⟨⟨after, answer⟩, performed, rest⟩ := Overflow.bind_eq_ok_iff.mp traced
      obtain ⟨later, later_traced, done⟩ := Overflow.bind_eq_ok_iff.mp rest
      cases done
      rcases List.mem_cons.mp member with rfl | member
      · exact ⟨contiguous, performed⟩
      · exact ih (contiguous.perform performed) later_traced member

/-- Whatever a window has been used for, a packet that is accepted behind its back leaves it as single
steps would. -/
theorem session_eq_of_mem_trace {size : Word} {calls : List WindowCall}
    {moments : List (Moment Window)}
    (traced : ({ size := size.val } : Window).trace calls = .ok moments) {moment : Moment Window}
    (member : moment ∈ moments) (call_eq : moment.call = .write id payload)
    (answer_eq : moment.answer = .stored missed) {session : WindowSession}
    (found : moment.before.session = some session) (back_lt : session.back < id.val) :
    moment.after.session = some ((session.stepTo id payload).startAt id) := by
  have fresh : ({ size := size.val } : Window).IsContiguous := ⟨size.isLt, by rintro _ ⟨⟩⟩
  obtain ⟨contiguous, performed⟩ := fresh.of_mem_trace traced member
  obtain ⟨before, call, answer, last⟩ := moment
  obtain rfl : call = .write id payload := call_eq
  obtain rfl : answer = .stored missed := answer_eq
  have session_contiguous := contiguous.session session found
  obtain ⟨outcome, written, done⟩ := Overflow.bind_eq_ok_iff.mp performed
  rcases outcome with rejection | ⟨stored, revealed⟩
  · cases done
  · cases done
    obtain ⟨accepted, stored_eq⟩ := store_of_write written
    have aligned := contiguous.aligned found accepted
    obtain ⟨placed, placed_eq, after_eq⟩ := exists_place_of_store found stored_eq
    have front_le := session_contiguous.front_le aligned back_lt
    obtain ⟨_, searched, values⟩ := session_contiguous.exists_missed aligned back_lt
    rw [WindowSession.place, if_neg (Nat.not_lt.mpr front_le), if_neg (Nat.not_le.mpr back_lt),
      session_contiguous.extend_eq aligned back_lt searched values] at placed_eq
    cases placed_eq
    rw [after_eq]

end Window
end Playback
end AudioMulticast
