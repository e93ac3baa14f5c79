import AudioMulticast.Wire.DataPacket
import Std.Data.TreeMap

/-!
# When to ask for missing packets

A missing packet is requested for the first time one interval after its absence was noticed, which
gives a packet that was merely delayed the chance to arrive, and then once in every interval until it
is forgotten.

Times are milliseconds without an upper bound.  The interval on a command line is a word, and a clock
that counts seconds in a word is far from its end when such an interval is over.  Intervals whose end
no clock can show are left out of account.
-/

namespace AudioMulticast
namespace Playback

/-- The missing packets, each with the time from which it is to be requested. -/
structure GapSchedule where
  /-- Least time between two requests for the same packet. -/
  interval : Nat
  /-- When each packet is due. -/
  dueTimes : Std.TreeMap PacketId Nat := ∅

namespace GapSchedule

/-- The schedule without entries. -/
def clear (schedule : GapSchedule) : GapSchedule :=
  { schedule with dueTimes := ∅ }

/-- Number of packets in the schedule. -/
def size (schedule : GapSchedule) : Nat :=
  schedule.dueTimes.size

/-- Add packets that turned out to be missing.  Those in the schedule keep their times. -/
def add (schedule : GapSchedule) (ids : List PacketId) (now : Nat) : GapSchedule :=
  { schedule with
    dueTimes :=
      ids.foldl (fun times id => times.insertIfNew id (now + schedule.interval))
        schedule.dueTimes }

/-- Remove packets from the schedule. -/
def forget (schedule : GapSchedule) (ids : List PacketId) : GapSchedule :=
  { schedule with dueTimes := ids.foldl (fun times id => times.erase id) schedule.dueTimes }

/-- The packets that are due, in ascending order. -/
def due (schedule : GapSchedule) (now : Nat) : List PacketId :=
  (schedule.dueTimes.toList.filter fun entry => entry.2 ≤ now).map Prod.fst

/-- Put packets off until an interval from now. -/
def postpone (schedule : GapSchedule) (ids : List PacketId) (now : Nat) : GapSchedule :=
  { schedule with
    dueTimes :=
      ids.foldl (fun times id => times.insert id (now + schedule.interval)) schedule.dueTimes }

/-- Remove some packets, then answer those that are due, which are put off. -/
def next (schedule : GapSchedule) (forgotten : List PacketId) (now : Nat) :
    GapSchedule × List PacketId :=
  let remaining := schedule.forget forgotten
  let ids := remaining.due now
  (remaining.postpone ids now, ids)

end GapSchedule
end Playback
end AudioMulticast
