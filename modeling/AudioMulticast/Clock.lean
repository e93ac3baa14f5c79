/-!
# Periodic work

Work that is done at fixed intervals starts at once and is repeated after every interval, as long as
it goes on.  Times are milliseconds without an upper bound.
-/

namespace AudioMulticast

/-- The times at which work is done that starts at `start`, is repeated at every interval, and goes on
for `duration`. -/
def ticks (interval start duration : Nat) : List Nat :=
  (List.range ((duration + interval - 1) / interval)).map fun count => start + count * interval

/-- The multiples of an interval that lie behind one time and not behind another. -/
def multiplesBetween (interval start stop : Nat) : List Nat :=
  (List.range (stop / interval - start / interval)).map fun count =>
    (start / interval + 1 + count) * interval

/-- Do work at the given times one after another, until the run that it belongs to is cancelled. -/
def workUntil {σ : Type} (isCancelled : σ → Bool) (work : σ → Nat → σ) : List Nat → σ → σ
  | [], state => state
  | time :: times, state =>
      if isCancelled state then state else workUntil isCancelled work times (work state time)

end AudioMulticast
