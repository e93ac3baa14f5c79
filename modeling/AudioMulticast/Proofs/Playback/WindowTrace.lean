import AudioMulticast.Playback.Window

/-!
# Runs of a window

A window is used through five calls, in any order.  A run of calls is recorded moment by moment,
with the window before and after each call and the answer; a run that overflows has no record.
-/

namespace AudioMulticast
namespace Playback

/-- What a window can be asked to do. -/
inductive WindowCall where
  /-- Check a packet and store it. -/
  | write (id : PacketId) (payload : Bytes)
  /-- Take the next piece of audio. -/
  | read
  /-- Tell whether a packet lies between front and back. -/
  | covers (id : PacketId)
  /-- Tell whether a packet lies inside the window and has not arrived. -/
  | isMissing (id : PacketId)
  /-- Forget all packets. -/
  | reset
  deriving DecidableEq, Repr

/-- What a window answers to a call. -/
inductive WindowAnswer where
  /-- The packet was not accepted. -/
  | rejected (rejection : Rejection)
  /-- The packet was accepted, and revealed these as missing. -/
  | stored (missed : List PacketId)
  /-- What playback found at the front. -/
  | found (reading : Reading)
  /-- The answer to a question. -/
  | truth (holds : Bool)
  /-- The packets were forgotten. -/
  | done
  deriving DecidableEq, Repr

/-- One call of a run, on a window or on what stands for a window. -/
structure Moment (σ : Type) where
  /-- State before the call. -/
  before : σ
  /-- The call. -/
  call : WindowCall
  /-- Answer to the call. -/
  answer : WindowAnswer
  /-- State after the call. -/
  after : σ
  deriving DecidableEq, Repr

/-- A moment with another view of its states. -/
def Moment.map {σ τ : Type} (view : σ → τ) (moment : Moment σ) : Moment τ :=
  { before := view moment.before
    call := moment.call
    answer := moment.answer
    after := view moment.after }

namespace Window

/-- Carry out a call. -/
def perform (window : Window) : WindowCall → Except Overflow (Window × WindowAnswer)
  | .write id payload => do
      match ← window.write id payload with
      | .error rejection => return (window, .rejected rejection)
      | .ok (written, missed) => return (written, .stored missed)
  | .read => do
      let (played, reading) ← window.read
      return (played, .found reading)
  | .covers id => .ok (window, .truth (window.covers id))
  | .isMissing id => .ok (window, .truth (window.isMissing id))
  | .reset => .ok (window.reset, .done)

/-- The moments of a run. -/
def trace : Window → List WindowCall → Except Overflow (List (Moment Window))
  | _, [] => .ok []
  | window, call :: calls => do
      let (after, answer) ← window.perform call
      let moments ← after.trace calls
      return { before := window, call, answer, after } :: moments

/-- What a run shows: the answer to each call, and how far the window has come then. -/
def run (window : Window) (calls : List WindowCall) :
    Except Overflow (List (WindowAnswer × Phase)) :=
  (window.trace calls).map (List.map fun moment => (moment.answer, moment.after.phase))

end Window
end Playback
end AudioMulticast
