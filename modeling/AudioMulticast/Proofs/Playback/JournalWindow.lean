import AudioMulticast.Proofs.Playback.Journal
import AudioMulticast.Proofs.Playback.Stride

/-!
# The window as a function of its journal

A journal determines every field of the window that has answered the same calls: the slots hold, for
each id from the cursor to the highest one, what the journal remembers about it.  Each operation of
the window is shown to agree with the operation of the journal, overflows included.
-/

namespace AudioMulticast

theorem PacketId.mem_below {id other : PacketId} : other ∈ id.below ↔ other.val < id.val := by
  simp only [PacketId.below, List.mem_map, List.mem_finRange, true_and]
  constructor
  · rintro ⟨smaller, rfl⟩
    exact smaller.isLt
  · intro less
    exact ⟨⟨other.val, less⟩, rfl⟩

theorem PacketId.pairwise_below (id : PacketId) : id.below.Pairwise (· < ·) := by
  refine List.Pairwise.map _ (fun _ _ less => ?_) (List.sortedLT_finRange id.val).pairwise
  exact less

theorem PacketId.isAligned_iff {length : Nat} (length_pos : 0 < length) {id : PacketId} :
    id.isAligned length ↔ length ∣ id.val := by
  rw [PacketId.isAligned, decide_eq_true length_pos, Bool.true_and, beq_iff_eq,
    Nat.dvd_iff_mod_eq_zero]

namespace Playback
namespace SessionJournal

/-- The session of a window that has accepted the same packets and played as many. -/
def window (journal : SessionJournal) : WindowSession :=
  { payloadLength := journal.length
    capacity := journal.capacity
    threshold := journal.threshold
    front := journal.next
    back := journal.top
    slots :=
      (stride journal.length journal.next (journal.top + journal.length)).map journal.payloads
    started := journal.isReadable }

@[simp]
theorem window_front (journal : SessionJournal) : journal.window.front = journal.next :=
  rfl

@[simp]
theorem window_back (journal : SessionJournal) : journal.window.back = journal.top :=
  rfl

@[simp]
theorem window_capacity (journal : SessionJournal) : journal.window.capacity = journal.capacity :=
  rfl

@[simp]
theorem window_payloadLength (journal : SessionJournal) :
    journal.window.payloadLength = journal.length :=
  rfl

@[simp]
theorem window_started (journal : SessionJournal) : journal.window.started = journal.isReadable :=
  rfl

/-- What holds of every journal that is kept of a window of `size` bytes.  The cursor is one step
behind the highest id at most, when playback has caught up. -/
structure Valid (size : Nat) (journal : SessionJournal) : Prop where
  length_pos : 0 < journal.length
  capacity_eq : journal.capacity = max 1 (size / journal.length)
  length_dvd_top : journal.length ∣ journal.top
  length_dvd_next : journal.length ∣ journal.next
  top_lt_word : journal.top < Word.count
  next_le : journal.next ≤ journal.top + journal.length
  top_le : journal.top ≤ journal.next + (journal.capacity - 1) * journal.length
  payloads_of_top_lt : ∀ id, journal.top < id → journal.payloads id = none

variable {size : Nat} {journal : SessionJournal}

theorem Valid.reach_lt_word (valid : journal.Valid size) (size_lt : size < Word.count) :
    (journal.capacity - 1) * journal.length < Word.count := by
  rw [valid.capacity_eq]
  calc
    (max 1 (size / journal.length) - 1) * journal.length ≤ size / journal.length * journal.length :=
      Nat.mul_le_mul_right _ (by generalize size / journal.length = whole; omega)
    _ ≤ size := Nat.div_mul_le_self size journal.length
    _ < Word.count := size_lt

/-- A packet of the stream above the top is a whole step above it. -/
theorem Valid.top_add_length_le (valid : journal.Valid size) {id : Nat}
    (aligned : journal.length ∣ id) (top_lt : journal.top < id) :
    journal.top + journal.length ≤ id := by
  obtain ⟨packets, id_eq⟩ := aligned
  obtain ⟨received, top_eq⟩ := valid.length_dvd_top
  rw [id_eq, top_eq] at top_lt ⊢
  rw [← Nat.mul_succ]
  exact Nat.mul_le_mul_left _ (Nat.lt_of_mul_lt_mul_left top_lt)

/-- A packet of the stream before the cursor is not above the top. -/
theorem Valid.le_top_of_lt_next (valid : journal.Valid size) {id : Nat}
    (aligned : journal.length ∣ id) (less : id < journal.next) : id ≤ journal.top := by
  by_contra above
  have := valid.top_add_length_le aligned (by omega)
  have := valid.next_le
  omega

/-- The cursor is at the head of the slots, unless playback has caught up. -/
theorem Valid.slots_eq_cons (valid : journal.Valid size) (next_le : journal.next ≤ journal.top) :
    journal.window.slots = journal.payloads journal.next :: journal.advance.window.slots := by
  simp only [window, advance]
  rw [stride_eq_cons valid.length_pos (by omega), List.map_cons]

theorem Valid.slots_eq_nil (valid : journal.Valid size) (caughtUp : journal.top < journal.next) :
    journal.window.slots = [] := by
  have reached : journal.next = journal.top + journal.length := by
    have := valid.top_add_length_le valid.length_dvd_next caughtUp
    have := valid.next_le
    omega
  simp only [window]
  rw [stride_eq_nil (by omega), List.map_nil]

/-- Every packet of the stream from the cursor to the top has its slot. -/
theorem Valid.getElem?_slots (valid : journal.Valid size) {id : Nat} (aligned : journal.length ∣ id)
    (next_le : journal.next ≤ id) (le_top : id ≤ journal.top) :
    journal.window.slots[(id - journal.next) / journal.length]? = some (journal.payloads id) := by
  simp only [window]
  rw [List.getElem?_map,
    getElem?_stride valid.length_pos valid.length_dvd_next aligned next_le (by omega)]
  rfl

/-! ## Accepting a packet -/

@[simp]
theorem accept_length (journal : SessionJournal) (id : PacketId) (payload : Bytes) :
    (journal.accept id payload).length = journal.length :=
  rfl

@[simp]
theorem accept_threshold (journal : SessionJournal) (id : PacketId) (payload : Bytes) :
    (journal.accept id payload).threshold = journal.threshold :=
  rfl

theorem Valid.start {id : PacketId} {payload : Bytes} (payload_ne : payload ≠ [])
    (aligned : payload.length ∣ id.val) : (SessionJournal.start size id payload).Valid size where
  length_pos := List.length_pos_iff.mpr payload_ne
  capacity_eq := rfl
  length_dvd_top := aligned
  length_dvd_next := aligned
  top_lt_word := id.isLt
  next_le := Nat.le_add_right _ _
  top_le := Nat.le_add_right _ _
  payloads_of_top_lt := by
    intro other less
    have less : id.val < other := less
    simp only [SessionJournal.start]
    rw [Function.update_of_ne (by omega)]

theorem Valid.accept (valid : journal.Valid size) {id : PacketId} (payload : Bytes)
    (aligned : journal.length ∣ id.val) : (journal.accept id payload).Valid size where
  length_pos := valid.length_pos
  capacity_eq := valid.capacity_eq
  length_dvd_top := max_rec' (journal.length ∣ ·) valid.length_dvd_top aligned
  length_dvd_next := by
    have top_dvd : journal.length ∣ max journal.top id.val :=
      max_rec' (journal.length ∣ ·) valid.length_dvd_top aligned
    exact max_rec' (journal.length ∣ ·) valid.length_dvd_next
      (Nat.dvd_sub top_dvd (Nat.dvd_mul_left _ _))
  top_lt_word := max_lt valid.top_lt_word id.isLt
  next_le := by
    have := valid.next_le
    simp only [SessionJournal.accept]
    omega
  top_le := by
    simp only [SessionJournal.accept]
    omega
  payloads_of_top_lt := by
    intro other less
    have less : max journal.top id.val < other := less
    simp only [SessionJournal.accept]
    rw [Function.update_of_ne (by omega)]
    exact valid.payloads_of_top_lt other (by omega)

/-- A packet that is not above the top moves neither the top nor the cursor. -/
theorem Valid.accept_of_le_top (valid : journal.Valid size) {id : PacketId} (payload : Bytes)
    (le_top : id.val ≤ journal.top) :
    journal.accept id payload =
      { journal with payloads := Function.update journal.payloads id.val (some payload) } := by
  have top_eq : max journal.top id.val = journal.top := max_eq_left le_top
  have next_eq :
      max journal.next (journal.top - (journal.capacity - 1) * journal.length) = journal.next :=
    max_eq_left (by have := valid.top_le; omega)
  simp only [SessionJournal.accept, top_eq, next_eq]

theorem revealed_of_le_top {id : PacketId} (payload : Bytes) (le_top : id.val ≤ journal.top) :
    journal.revealed id payload = [] := by
  rw [revealed, List.filter_eq_nil_iff]
  intro other below
  have less := PacketId.mem_below.mp below
  simp only [decide_eq_true_eq]
  omega

/-- The slots do not change with what is remembered about other packets. -/
theorem map_stride_update {length start stop id : Nat} (payloads : Nat → Option Bytes)
    (payload : Option Bytes) (outside : ∀ other ∈ stride length start stop, other ≠ id) :
    (stride length start stop).map (Function.update payloads id payload) =
      (stride length start stop).map payloads :=
  List.map_congr_left fun other member => Function.update_of_ne (outside other member) _ _

theorem Valid.place_of_lt_next (valid : journal.Valid size) {id : PacketId} (payload : Bytes)
    (aligned : journal.length ∣ id.val) (less : id.val < journal.next) :
    journal.window.place id payload =
      .ok ({ (journal.accept id payload).window with started := journal.isReadable },
        journal.revealed id payload) := by
  have le_top := valid.le_top_of_lt_next aligned less
  have same :
      (stride journal.length journal.next (journal.top + journal.length)).map
          (Function.update journal.payloads id.val (some payload)) =
        (stride journal.length journal.next (journal.top + journal.length)).map
          journal.payloads := by
    refine map_stride_update _ _ fun other member => ?_
    have := start_le_of_mem_stride member
    omega
  rw [WindowSession.place, window_front, if_pos less, valid.accept_of_le_top payload le_top,
    revealed_of_le_top payload le_top]
  simp only [window]
  rw [same]
  rfl

theorem Valid.place_of_le_top (valid : journal.Valid size) {id : PacketId} (payload : Bytes)
    (aligned : journal.length ∣ id.val) (next_le : journal.next ≤ id.val)
    (le_top : id.val ≤ journal.top) :
    journal.window.place id payload =
      .ok ({ (journal.accept id payload).window with started := journal.isReadable },
        journal.revealed id payload) := by
  have filled :
      ((stride journal.length journal.next (journal.top + journal.length)).map
          journal.payloads).set ((id.val - journal.next) / journal.length) (some payload) =
        (stride journal.length journal.next (journal.top + journal.length)).map
          (Function.update journal.payloads id.val (some payload)) :=
    set_map_stride valid.length_pos valid.length_dvd_next journal.payloads aligned next_le _
  rw [WindowSession.place, window_front, if_neg (Nat.not_lt.mpr next_le), window_back,
    if_pos le_top, valid.accept_of_le_top payload le_top, revealed_of_le_top payload le_top]
  simp only [WindowSession.fill, window]
  rw [filled]
  rfl

/-- The cursor moves on at least as far as a window reaches back from the packet, and no farther. -/
theorem accept_next_of_top_lt {id : PacketId} (payload : Bytes) (top_lt : journal.top < id.val) :
    (journal.accept id payload).next =
      max journal.next (id.val - (journal.capacity - 1) * journal.length) := by
  simp only [SessionJournal.accept, max_eq_right (Nat.le_of_lt top_lt)]

theorem mem_revealed {id other : PacketId} {payload : Bytes} :
    other ∈ journal.revealed id payload ↔
      other.val < id.val ∧ journal.length ∣ other.val ∧ journal.top < other.val ∧
        (journal.accept id payload).next ≤ other.val := by
  rw [revealed, List.mem_filter, PacketId.mem_below, decide_eq_true_eq]

theorem pairwise_revealed (id : PacketId) (payload : Bytes) :
    (journal.revealed id payload).Pairwise (· < ·) :=
  (PacketId.pairwise_below id).filter _

/-- The ids that are found to be skipped are those that the journal reveals. -/
theorem Valid.eq_revealed (valid : journal.Valid size) {id : PacketId} (payload : Bytes)
    (aligned : journal.length ∣ id.val) {missed : List PacketId}
    (values : missed.map Fin.val =
      stride journal.length (max (journal.top + journal.length) (journal.accept id payload).next)
        id.val) :
    missed = journal.revealed id payload := by
  have start_dvd :
      journal.length ∣ max (journal.top + journal.length) (journal.accept id payload).next :=
    max_rec' (journal.length ∣ ·) (Nat.dvd_add valid.length_dvd_top (Nat.dvd_refl _))
      (valid.accept payload aligned).length_dvd_next
  have values_ascending : (missed.map Fin.val).Pairwise (· < ·) :=
    values ▸ pairwise_stride valid.length_pos
  have ascending : missed.Pairwise (· < ·) :=
    (List.pairwise_map.mp values_ascending).imp fun less => less
  refine ascending.eq_of_mem_iff (pairwise_revealed id payload) fun other => ?_
  rw [← List.mem_map_of_injective Fin.val_injective, values,
    mem_stride valid.length_pos start_dvd aligned, mem_revealed]
  constructor
  · rintro ⟨other_dvd, start_le, less⟩
    have := valid.length_pos
    exact ⟨less, other_dvd, by omega, by omega⟩
  · rintro ⟨less, other_dvd, top_lt, next_le⟩
    have := valid.top_add_length_le other_dvd top_lt
    exact ⟨other_dvd, by omega, less⟩

/-- The slots once a packet above the top has been accepted: those that are kept, those of the ids
that were skipped, and that of the packet. -/
theorem Valid.slots_accept (valid : journal.Valid size) {id : PacketId} (payload : Bytes)
    (aligned : journal.length ∣ id.val) (top_lt : journal.top < id.val) :
    (journal.accept id payload).window.slots =
      (stride journal.length (journal.accept id payload).next
          (journal.top + journal.length)).map journal.payloads ++
        (stride journal.length
          (max (journal.top + journal.length) (journal.accept id payload).next) id.val).map
          (fun _ => none) ++
        [some payload] := by
  have length_pos := valid.length_pos
  have accepted := valid.accept payload aligned
  have fits := valid.top_add_length_le aligned top_lt
  have next_eq := accept_next_of_top_lt payload top_lt
  have next_le := valid.next_le
  generalize front_eq : (journal.accept id payload).next = front at *
  have front_le : front ≤ id.val := by omega
  have front_dvd : journal.length ∣ front := front_eq ▸ accepted.length_dvd_next
  have payloads_eq :
      (journal.accept id payload).payloads =
        Function.update journal.payloads id.val (some payload) := rfl
  have top_eq : (journal.accept id payload).top = id.val := max_eq_right (Nat.le_of_lt top_lt)
  have split :
      stride journal.length front (journal.top + journal.length) ++
          stride journal.length (max (journal.top + journal.length) front) id.val ++ [id.val] =
        stride journal.length front (id.val + journal.length) := by
    rw [stride_append_max front_dvd (Nat.dvd_add valid.length_dvd_top (Nat.dvd_refl _)) fits,
      stride_append_stop length_pos front_le (Nat.dvd_sub aligned front_dvd)]
  have kept :
      (stride journal.length front (journal.top + journal.length)).map
          (Function.update journal.payloads id.val (some payload)) =
        (stride journal.length front (journal.top + journal.length)).map journal.payloads :=
    map_stride_update _ _ fun other member => by
      have := add_length_le_of_mem_stride length_pos member
      omega
  have skipped :
      (stride journal.length (max (journal.top + journal.length) front) id.val).map
          (Function.update journal.payloads id.val (some payload)) =
        (stride journal.length (max (journal.top + journal.length) front) id.val).map
          (fun _ => none) := by
    apply List.map_congr_left
    intro other member
    have := start_le_of_mem_stride member
    have := add_length_le_of_mem_stride length_pos member
    rw [Function.update_of_ne (by omega), valid.payloads_of_top_lt other (by omega)]
  simp only [window, front_eq, top_eq, payloads_eq, accept_length]
  rw [← split, List.map_append, List.map_append, kept, skipped, List.map_singleton,
    Function.update_self]

theorem Valid.place_of_top_lt (valid : journal.Valid size) (size_lt : size < Word.count)
    {id : PacketId} (payload : Bytes) (aligned : journal.length ∣ id.val)
    (top_lt : journal.top < id.val) :
    journal.window.place id payload =
      .ok ({ (journal.accept id payload).window with started := journal.isReadable },
        journal.revealed id payload) := by
  have length_pos := valid.length_pos
  have accepted := valid.accept payload aligned
  have fits := valid.top_add_length_le aligned top_lt
  have id_lt := id.isLt
  have next_le := valid.next_le
  have next_eq := accept_next_of_top_lt payload top_lt
  have front_eq :
      (if (journal.capacity - 1) * journal.length ≤ id.val then
          max (id.val - (journal.capacity - 1) * journal.length) journal.next
        else journal.next) =
        (journal.accept id payload).next := by
    rw [next_eq]
    split <;> omega
  have moved_dvd : journal.length ∣ (journal.accept id payload).next - journal.next :=
    Nat.dvd_sub accepted.length_dvd_next valid.length_dvd_next
  have dropped :
      journal.window.slots.drop
          (((journal.accept id payload).next - journal.next) / journal.length) =
        (stride journal.length (journal.accept id payload).next
          (journal.top + journal.length)).map journal.payloads := by
    rw [window, ← List.map_drop, drop_stride (by omega) moved_dvd]
  have start_le :
      max (journal.top + journal.length) (journal.accept id payload).next ≤ id.val := by
    omega
  have start_dvd :
      journal.length ∣ id.val -
        max (journal.top + journal.length) (journal.accept id payload).next :=
    Nat.dvd_sub aligned
      (max_rec' (journal.length ∣ ·) (Nat.dvd_add valid.length_dvd_top (Nat.dvd_refl _))
        accepted.length_dvd_next)
  obtain ⟨missed, found, values⟩ := exists_idsBetween length_pos start_le start_dvd
  have slots_eq :
      (stride journal.length (journal.accept id payload).next
            (journal.top + journal.length)).map journal.payloads ++
          missed.map (fun _ => none) ++ [some payload] =
        (journal.accept id payload).window.slots := by
    rw [valid.slots_accept payload aligned top_lt, ← values, List.map_map]
    rfl
  have top_eq : id.val = (journal.accept id payload).top :=
    (max_eq_right (Nat.le_of_lt top_lt)).symm
  rw [WindowSession.place, window_front, if_neg (by omega), window_back, if_neg (by omega),
    WindowSession.extend, window_capacity, window_payloadLength,
    Word.mul_of_lt (valid.reach_lt_word size_lt), window_front, window_back, Overflow.ok_bind,
    front_eq, Word.saturatingAdd_of_lt (by omega)]
  simp only [found, dropped, Overflow.ok_bind]
  rw [slots_eq, valid.eq_revealed payload aligned values, top_eq]
  rfl

theorem Valid.place (valid : journal.Valid size) (size_lt : size < Word.count) {id : PacketId}
    (payload : Bytes) (aligned : journal.length ∣ id.val) :
    journal.window.place id payload =
      .ok ({ (journal.accept id payload).window with started := journal.isReadable },
        journal.revealed id payload) := by
  rcases Nat.lt_or_ge journal.top id.val with top_lt | le_top
  · exact valid.place_of_top_lt size_lt payload aligned top_lt
  · rcases Nat.lt_or_ge id.val journal.next with less | next_le
    · exact valid.place_of_lt_next payload aligned less
    · exact valid.place_of_le_top payload aligned next_le le_top

/-- Playback starts when the highest id reaches the threshold, with whichever packet that happens.
-/
theorem startAt_accept (journal : SessionJournal) (id : PacketId) (payload : Bytes) :
    { (journal.accept id payload).window with started := journal.isReadable }.startAt id =
      (journal.accept id payload).window := by
  have readable_eq :
      (journal.isReadable || decide (journal.threshold ≤ id.val)) =
        (journal.accept id payload).isReadable := by
    rw [isReadable, isReadable, accept_threshold, ← Bool.decide_or, decide_eq_decide]
    simp only [SessionJournal.accept]
    omega
  exact congrArg (fun started => { (journal.accept id payload).window with started }) readable_eq

/-! ## The first packet -/

/-- Three quarters of the window are no more than the window, if at least one packet fits into it.
-/
theorem distance_lt_word {length : Nat} (size_lt : size < Word.count) :
    max 1 (size / length) * 3 / 4 * length < Word.count := by
  have whole_le : size / length * length ≤ size := Nat.div_mul_le_self size length
  have quarters_le : max 1 (size / length) * 3 / 4 ≤ size / length := by
    generalize size / length = whole
    omega
  calc
    max 1 (size / length) * 3 / 4 * length ≤ size / length * length :=
      Nat.mul_le_mul_right _ quarters_le
    _ ≤ size := whole_le
    _ < Word.count := size_lt

theorem exists_start {id : PacketId} {payload : Bytes} (payload_ne : payload ≠ [])
    (size_lt : size < Word.count) (tripled_lt : 3 * max 1 (size / payload.length) < Word.count) :
    ∃ session, WindowSession.start size id payload = .ok session ∧
      session.startAt id = (SessionJournal.start size id payload).window := by
  have length_pos : 0 < payload.length := List.length_pos_iff.mpr payload_ne
  have slots_eq : (SessionJournal.start size id payload).window.slots = [some payload] := by
    simp only [window, SessionJournal.start]
    rw [stride_eq_cons length_pos (Nat.le_refl _), stride_eq_nil (Nat.le_refl _),
      List.map_singleton, Function.update_self]
  refine ⟨{ (SessionJournal.start size id payload).window with started := false }, ?_, ?_⟩
  · rw [WindowSession.start, max_comm, Word.mul_of_lt (by omega), Overflow.ok_bind,
      Word.mul_of_lt (distance_lt_word size_lt), Overflow.ok_bind, ← slots_eq]
    rfl
  · simp only [WindowSession.startAt, Bool.false_or]
    rfl

theorem start_eq_error {id : PacketId} {payload : Bytes}
    (tripled_ge : Word.count ≤ 3 * max 1 (size / payload.length)) :
    WindowSession.start size id payload = .error .multiplication := by
  rw [WindowSession.start, max_comm, Word.mul_of_le (by omega), Overflow.error_bind]

/-! ## Reading -/

/-- Playback finds nothing, a hole or a piece of audio, and only the last moves the cursor. -/
theorem read_cases (journal : SessionJournal) :
    (¬(journal.isReadable ∧ journal.next ≤ journal.top) ∧ journal.read = (journal, .nothing)) ∨
      ((journal.isReadable ∧ journal.next ≤ journal.top) ∧ journal.payloads journal.next = none ∧
        journal.read = (journal, .hole journal.next)) ∨
      ((journal.isReadable ∧ journal.next ≤ journal.top) ∧
        ∃ payload, journal.payloads journal.next = some payload ∧
          journal.read = (journal.advance, .chunk payload)) := by
  by_cases readable : journal.isReadable ∧ journal.next ≤ journal.top
  · cases payload_eq : journal.payloads journal.next with
    | none => exact .inr (.inl ⟨readable, rfl, by rw [read, if_pos readable, payload_eq]⟩)
    | some payload =>
        exact .inr (.inr ⟨readable, payload, rfl, by rw [read, if_pos readable, payload_eq]⟩)
  · exact .inl ⟨readable, by rw [read, if_neg readable]⟩

theorem read_length (journal : SessionJournal) : journal.read.1.length = journal.length := by
  rcases journal.read_cases with ⟨-, read_eq⟩ | ⟨-, -, read_eq⟩ | ⟨-, _, -, read_eq⟩
  all_goals rw [read_eq]
  rfl

theorem read_top (journal : SessionJournal) : journal.read.1.top = journal.top := by
  rcases journal.read_cases with ⟨-, read_eq⟩ | ⟨-, -, read_eq⟩ | ⟨-, _, -, read_eq⟩
  all_goals rw [read_eq]
  rfl

theorem read_payloads (journal : SessionJournal) : journal.read.1.payloads = journal.payloads := by
  rcases journal.read_cases with ⟨-, read_eq⟩ | ⟨-, -, read_eq⟩ | ⟨-, _, -, read_eq⟩
  all_goals rw [read_eq]
  rfl

theorem Valid.advance (valid : journal.Valid size) (next_le : journal.next ≤ journal.top) :
    journal.advance.Valid size where
  length_pos := valid.length_pos
  capacity_eq := valid.capacity_eq
  length_dvd_top := valid.length_dvd_top
  length_dvd_next := Nat.dvd_add valid.length_dvd_next (Nat.dvd_refl _)
  top_lt_word := valid.top_lt_word
  next_le := Nat.add_le_add_right next_le _
  top_le := by
    have := valid.top_le
    simp only [SessionJournal.advance]
    omega
  payloads_of_top_lt := valid.payloads_of_top_lt

theorem Valid.read (valid : journal.Valid size) : journal.read.1.Valid size := by
  rcases journal.read_cases with ⟨-, read_eq⟩ | ⟨-, -, read_eq⟩ | ⟨readable, _, -, read_eq⟩
  · rw [read_eq]
    exact valid
  · rw [read_eq]
    exact valid
  · rw [read_eq]
    exact valid.advance readable.2

/-! ## Questions -/

theorem Valid.window_covers (valid : journal.Valid size) (id : PacketId) :
    journal.window.covers id = journal.covers id := by
  rw [WindowSession.covers, covers, window_front, window_back, Bool.and_assoc, ← Bool.decide_and]
  by_cases inside : journal.next ≤ id.val ∧ id.val ≤ journal.top
  · rw [decide_eq_true inside, valid.slots_eq_cons (by omega)]
    rfl
  · rw [decide_eq_false inside, Bool.and_false]

theorem isMissing_iff {id : PacketId} :
    journal.isMissing id ↔
      (journal.next ≤ id.val ∧ id.val ≤ journal.top) ∧ journal.length ∣ id.val ∧
        journal.payloads id.val = none := by
  rw [isMissing, decide_eq_true_eq, covers, decide_eq_true_eq]

theorem Valid.window_isMissing (valid : journal.Valid size) (id : PacketId) :
    journal.window.isMissing id = journal.isMissing id := by
  rw [Bool.eq_iff_iff, isMissing_iff, WindowSession.isMissing, WindowSession.lacks,
    valid.window_covers, window_payloadLength, window_front, List.getElem?_toArray,
    Bool.and_eq_true, Bool.and_eq_true, PacketId.isAligned_iff valid.length_pos, covers,
    decide_eq_true_eq, beq_iff_eq, and_assoc]
  refine and_congr_right fun inside => and_congr_right fun aligned => ?_
  rw [valid.getElem?_slots aligned inside.1 inside.2, Option.some_inj]

end SessionJournal
end Playback
end AudioMulticast
