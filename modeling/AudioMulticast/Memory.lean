import AudioMulticast.Word

/-!
# Memory

A buffer or a table of known length is laid out as one block of memory when it is made.  The number of
bytes in a block has to be in range.
-/

namespace AudioMulticast
namespace Memory

/-- The least number of bytes that is out of range for a block: sizes are words with a sign. -/
def outOfRange : Nat := Nat.pow 2 63

/-- Check that the number of bytes in a block is in range. -/
def request (bytes : Nat) : Except Overflow Unit :=
  if bytes < outOfRange then .ok () else .error .capacity

theorem request_of_lt {bytes : Nat} (inRange : bytes < outOfRange) : request bytes = .ok () :=
  if_pos inRange

theorem request_of_le {bytes : Nat} (tooLarge : outOfRange ≤ bytes) :
    request bytes = .error .capacity :=
  if_neg (Nat.not_lt.mpr tooLarge)

end Memory
end AudioMulticast
