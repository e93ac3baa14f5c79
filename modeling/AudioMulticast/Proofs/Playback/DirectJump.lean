import AudioMulticast.Proofs.Playback.ContiguousWindow
import Mathlib.Data.Nat.PSub

/-!
# A jump behind the back

However far behind the back of a window a packet is, the jump to its place leaves the window as single
steps would.  None of the calculations leaves the range of a word, and there are fewer rounds than
slots.
-/

namespace AudioMulticast
namespace Playback

/-! ## Checked calculations -/

/-- The ids from `next` up to `stop` exclusively, `length` apart, if they are found within so many
rounds and every sum is a word. -/
def idsWithin (length : Nat) (stop : PacketId) : Nat → PacketId → Option (List PacketId)
  | 0, next => if next.val < stop.val then none else some []
  | rounds + 1, next =>
      if next.val < stop.val then do
        let following ← Word.ofNat? (next.val + length)
        let rest ← idsWithin length stop rounds following
        return next :: rest
      else
        some []

/-- A search that finds ids finds them within as many rounds. -/
theorem idsWithin_of_idsBetween {length rounds : Nat} {stop next : PacketId} {ids : List PacketId}
    (length_pos : 0 < length) (found : idsBetween length stop next.val = .ok ids)
    (few : ids.length ≤ rounds) : idsWithin length stop rounds next = some ids := by
  induction rounds generalizing next ids with
  | zero =>
      obtain rfl := List.length_eq_zero_iff.mp (Nat.le_zero.mp few)
      rw [idsBetween] at found
      split_ifs at found with inside fits
      · obtain ⟨rest, -, ⟨⟩⟩ := Overflow.bind_eq_ok_iff.mp found
      · rw [idsWithin, if_neg fun less => inside ⟨less, length_pos⟩]
  | succ rounds ih =>
      rw [idsBetween] at found
      split_ifs at found with inside fits
      · obtain ⟨rest, rest_found, done⟩ := Overflow.bind_eq_ok_iff.mp found
        cases done
        have following_eq : Word.ofNat? (next.val + length) = some ⟨next.val + length, fits⟩ :=
          dif_pos fits
        rw [idsWithin, if_pos inside.1, following_eq, Option.bind_eq_bind, Option.bind_some,
          ih rest_found (Nat.le_of_succ_le_succ few)]
        rfl
      · cases found
        rw [idsWithin, if_neg fun less => inside ⟨less, length_pos⟩]

namespace WindowSession

/-- The slots that are left once the front has been moved, if the distance is not negative and is not
divided by zero. -/
def keptWithin (session : WindowSession) (front : Nat) : Option (List (Option Bytes)) :=
  if session.front < front then do
    let distance ← front.psub session.front
    guard (0 < session.payloadLength)
    return session.slots.drop (min (distance / session.payloadLength) session.slots.length)
  else
    some session.slots

/-- Move the back to a packet behind it, if no difference is negative, nothing is divided by zero,
sums and products are words, and the skipped packets are found within so many rounds. -/
def extendWithin (rounds : Nat) (session : WindowSession) (id : PacketId) (payload : Bytes) :
    Option (WindowSession × List PacketId) := do
  let others ← session.capacity.psub 1
  let reach ← Word.ofNat? (others * session.payloadLength)
  let front := ((id.val.psub reach.val).map (max · session.front)).getD session.front
  let kept ← session.keptWithin front
  let next ← Word.ofNat? (max (Word.saturatingAdd session.back session.payloadLength) front)
  let missed ← idsWithin session.payloadLength id rounds next
  let slots := kept ++ missed.map (fun _ => none) ++ [some payload]
  return ({ session with front, back := id.val, slots }, missed)

variable {session : WindowSession} {id : PacketId} {payload : Bytes}

namespace IsContiguous

theorem keptWithin_eq (contiguous : session.IsContiguous) (count : Nat) :
    session.keptWithin (session.front + session.payloadLength * count) =
      some (session.slots.drop count) := by
  rcases Nat.eq_zero_or_pos count with rfl | count_pos
  · rw [keptWithin, Nat.mul_zero, Nat.add_zero, if_neg (Nat.lt_irrefl _), List.drop_zero]
  · have moved_pos := Nat.mul_pos contiguous.length_pos count_pos
    have dropped_eq : session.slots.drop (min count session.slots.length) =
        session.slots.drop count := by
      rcases Nat.le_total count session.slots.length with inside | past
      · rw [Nat.min_eq_left inside]
      · rw [Nat.min_eq_right past, List.drop_length, List.drop_eq_nil_of_le past]
    rw [keptWithin, if_pos (Nat.lt_add_of_pos_right moved_pos),
      Nat.psub_eq_sub (Nat.le_add_right _ _), Nat.add_sub_cancel_left]
    simp [contiguous.length_pos, guard, dropped_eq]

/-- The search takes fewer rounds than there are slots. -/
theorem length_lt (contiguous : session.IsContiguous) {missed : List PacketId}
    (values : missed.map Fin.val = stride session.payloadLength (session.searchStart id) id.val) :
    missed.length < session.capacity := by
  have length_eq := congrArg List.length values
  rw [contiguous.drop_skipped, List.length_map, List.length_drop, surplus] at length_eq
  have capacity_pos := contiguous.capacity_pos
  omega

theorem extendWithin_eq (contiguous : session.IsContiguous)
    (aligned : session.payloadLength ∣ id.val) (back_lt : session.back < id.val)
    {missed : List PacketId}
    (found : idsBetween session.payloadLength id (session.searchStart id) = .ok missed)
    (values : missed.map Fin.val = stride session.payloadLength (session.searchStart id) id.val)
    (payload : Bytes) :
    session.extendWithin missed.length id payload =
      some (session.stepTo id payload, missed) := by
  have back_fits := contiguous.back_add_le aligned back_lt
  let reach : Word := ⟨(session.capacity - 1) * session.payloadLength, contiguous.reach_lt⟩
  have reach_eq : Word.ofNat? ((session.capacity - 1) * session.payloadLength) = some reach :=
    dif_pos contiguous.reach_lt
  have front_eq : ((id.val.psub reach.val).map (max · session.front)).getD session.front =
      session.front + session.payloadLength * session.surplus id := by
    rw [← contiguous.front_eq aligned back_lt]
    split_ifs with low
    · rw [Nat.psub_eq_sub low]
      rfl
    · rw [Nat.psub_eq_none.mpr (Nat.lt_of_not_le low)]
      rfl
  have start_lt := Nat.lt_of_le_of_lt (contiguous.start_le aligned back_lt) id.isLt
  let next : PacketId := ⟨session.searchStart id, start_lt⟩
  have next_eq : Word.ofNat? (max (Word.saturatingAdd session.back session.payloadLength)
      (session.front + session.payloadLength * session.surplus id)) = some next := by
    rw [Word.saturatingAdd_of_lt (by omega)]
    exact dif_pos start_lt
  have rounds_eq : idsWithin session.payloadLength id missed.length next = some missed :=
    idsWithin_of_idsBetween contiguous.length_pos found (Nat.le_refl _)
  simp only [extendWithin, Nat.psub_eq_sub contiguous.capacity_pos, reach_eq, front_eq,
    contiguous.keptWithin_eq, next_eq, rounds_eq, Option.bind_eq_bind, Option.bind_some]
  rw [contiguous.map_none_eq values, contiguous.stepTo_eq]
  rfl

theorem mem_missed_iff (contiguous : session.IsContiguous)
    (aligned : session.payloadLength ∣ id.val) {missed : List PacketId}
    (values : missed.map Fin.val = stride session.payloadLength (session.searchStart id) id.val)
    (payload : Bytes) {other : PacketId} :
    other ∈ missed ↔
      (session.payloadLength ∣ other.val ∧ session.back < other.val ∧ other.val < id.val) ∧
        (session.stepTo id payload).front ≤ other.val := by
  have front_eq : (session.stepTo id payload).front =
      session.front + session.payloadLength * session.surplus id := by
    rw [contiguous.stepTo_eq]
  rw [← List.mem_map_of_injective Fin.val_injective, values,
    mem_stride contiguous.length_pos (contiguous.start_dvd id) aligned, searchStart, Nat.max_le,
    front_eq]
  constructor
  · rintro ⟨other_dvd, ⟨behind, inside⟩, less⟩
    have length_pos := contiguous.length_pos
    exact ⟨⟨other_dvd, by omega, less⟩, inside⟩
  · rintro ⟨⟨other_dvd, back_lt, less⟩, inside⟩
    exact ⟨other_dvd, ⟨contiguous.back_add_le other_dvd back_lt, inside⟩, less⟩

end IsContiguous

/-! ## The jump -/

/-- A jump to a packet behind the back does what single steps do. -/
structure JumpsLikeSteps (session : WindowSession) (id : PacketId) (payload : Bytes)
    (missed : List PacketId) : Prop where
  /-- The window is left as single steps leave it. -/
  extend_eq : session.extend id payload = .ok (session.stepTo id payload, missed)
  /-- All calculations stay in range, and the search takes fewer rounds than there are slots. -/
  extendWithin_eq : ∃ rounds < session.capacity,
    session.extendWithin rounds id payload = some (session.stepTo id payload, missed)
  /-- The packets that are missed are in ascending order. -/
  ascending : missed.Pairwise (· < ·)
  /-- They are those that were skipped and are still inside the window. -/
  mem_missed_iff : ∀ {other : PacketId}, other ∈ missed ↔
    (session.payloadLength ∣ other.val ∧ session.back < other.val ∧ other.val < id.val) ∧
      (session.stepTo id payload).front ≤ other.val

/-- From every window whose slots are contiguous, a jump does what single steps do. -/
theorem exists_jumpsLikeSteps (contiguous : session.IsContiguous)
    (aligned : session.payloadLength ∣ id.val) (back_lt : session.back < id.val)
    (payload : Bytes) : ∃ missed, session.JumpsLikeSteps id payload missed := by
  obtain ⟨missed, found, values⟩ := contiguous.exists_missed aligned back_lt
  have ascending : (missed.map Fin.val).Pairwise (· < ·) :=
    values ▸ pairwise_stride contiguous.length_pos
  exact ⟨missed, contiguous.extend_eq aligned back_lt found values payload,
    ⟨_, contiguous.length_lt values,
      contiguous.extendWithin_eq aligned back_lt found values payload⟩,
    (List.pairwise_map.mp ascending).imp fun less => less,
    contiguous.mem_missed_iff aligned values payload⟩

/-- Playback has caught up, and the next packet is the last one there can be. -/
theorem exists_jumpsLikeSteps_of_caughtUp :
    let session : WindowSession :=
      { payloadLength := 2, capacity := 2, threshold := 2, front := 4, back := 2, slots := []
        started := true }
    let id : PacketId := 18446744073709551614
    session.IsContiguous ∧ session.payloadLength ∣ id.val ∧ session.back < id.val ∧
      ∃ missed, session.JumpsLikeSteps id [8, 9] missed ∧ missed = [18446744073709551612] ∧
        session.stepTo id [8, 9] =
          { session with
            front := 18446744073709551612
            back := 18446744073709551614
            slots := [none, some [8, 9]] } := by
  intro session id
  have contiguous : session.IsContiguous :=
    ⟨by decide, by decide, by decide, by decide, by decide, by decide⟩
  have aligned : session.payloadLength ∣ id.val := by decide
  have back_lt : session.back < id.val := by decide
  obtain ⟨missed, jumps⟩ := exists_jumpsLikeSteps contiguous aligned back_lt [8, 9]
  have extend_eq : session.extend id [8, 9] =
      .ok ({ session with
        front := 18446744073709551612
        back := 18446744073709551614
        slots := [none, some [8, 9]] }, [18446744073709551612]) := by
    decide +kernel
  obtain ⟨stepTo_eq, missed_eq⟩ :=
    Prod.mk.inj (Except.ok.inj (jumps.extend_eq.symm.trans extend_eq))
  exact ⟨contiguous, aligned, back_lt, missed, jumps, missed_eq, stepTo_eq⟩

end WindowSession
end Playback
end AudioMulticast
