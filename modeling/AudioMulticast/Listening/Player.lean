import AudioMulticast.Listening.Receiver

/-!
# Playing the stream

Audio is written to an output as long as there is some; when there is none, playback looks again after
an interval.  Playback ends when the output fails.
-/

namespace AudioMulticast
namespace Listening

/-- An output for audio, which may take only a limited number of pieces. -/
structure Output where
  /-- How many more pieces can be written, if that is limited. -/
  room : Option Nat := none
  /-- The pieces written so far, in order. -/
  written : List Bytes := []
  /-- Whether writing has failed. -/
  hasFailed : Bool := false
  deriving DecidableEq, Repr

namespace Output

/-- What is reported when writing fails. -/
def failure : String := "output failed"

/-- Write a piece. -/
def write (output : Output) (piece : Bytes) : Output :=
  match output.room with
  | some 0 => { output with hasFailed := true }
  | some (room + 1) => { output with room := some room, written := output.written ++ [piece] }
  | none => { output with written := output.written ++ [piece] }

end Output

namespace Receiver

/-- Take the next piece of audio, if there is one. -/
def takePiece (receiver : Receiver) : Except Overflow (Receiver × Option Bytes) := do
  let (reception, piece) ← receiver.reception.play
  return ({ receiver with reception }, piece)

/-- Play up to `count` pieces, until there is nothing to play or the output fails. -/
def playUpTo (count : Nat) (receiver : Receiver) (output : Output) :
    Except Overflow (Receiver × Output) := do
  match count with
  | 0 => return (receiver, output)
  | count + 1 =>
      let (taken, piece) ← receiver.takePiece
      match piece with
      | none => return (taken, output)
      | some piece =>
          let written := output.write piece
          if written.hasFailed then
            return (taken, written)
          else
            playUpTo count taken written

/-- Play what there is, unless the output has failed.  One look more than there are slots finds that
there is nothing left, or a hole. -/
def play (receiver : Receiver) (output : Output) : Except Overflow (Receiver × Output) :=
  if output.hasFailed then .ok (receiver, output)
  else playUpTo (receiver.reception.slotCount + 1) receiver output

/-- Play for some time. -/
def playFor (receiver : Receiver) (now duration : Nat) (output : Output) :
    Except Overflow (Receiver × Output) :=
  (ticks receiver.config.playbackInterval now duration).foldlM
    (fun state _ => state.1.play state.2) (receiver, output)

end Receiver
end Listening
end AudioMulticast
