import AudioMulticast.CommandLine.Launch
import AudioMulticast.Service.Receiver
import AudioMulticast.Service.Sender

/-!
# The command line

The first argument tells whether a sender or a receiver is started; the others are its command line.
-/

namespace AudioMulticast

open Broadcast CommandLine Service

/-- Report a failure, and answer the exit code for it. -/
def fail (reason : String) : IO UInt32 := do
  IO.eprintln ("Error: " ++ reason)
  return 1

/-- Run a sender, and answer its exit code. -/
def workAsSender (report : Report) (config : Broadcast.Config) : IO UInt32 := do
  match ← (runSender report config).block with
  | .finished => return 0
  | .failed reason => fail reason

/-- Run a receiver, and answer its exit code. -/
def workAsReceiver (report : Report) (config : Listening.Config) : IO UInt32 := do
  match ← (runReceiver report config).block with
  | .interrupted => return 0
  | .failed reason => fail reason
  | .crashed calculation => do
      IO.eprintln calculation.message
      return 101

/-- The greatest block of memory that a program is given, in bytes: 64 gibibytes. -/
def availableMemory : Nat := Nat.pow 2 36

/-- What a shell tells instead of the exit code of a program that is aborted. -/
def abortedCode : UInt32 := 134

/-- Launch a program, and answer its exit code. -/
def start {σ : Type} (program : Program σ) (arguments : List String)
    (work : Report → σ → IO UInt32) : IO UInt32 := do
  let launch := program.launch availableMemory arguments
  IO.print (String.ofList launch.output)
  match launch with
  | .works arguments =>
      try
        let report : Report := { isVerbose := arguments.isVerbose || arguments.isVeryVerbose }
        return ← work report arguments.config
      catch failure =>
        return ← fail failure.toString
  | .refused error =>
      IO.eprintln ("error: " ++ error.message)
  | .crashed calculation =>
      IO.eprintln calculation.message
  | .aborted bytes =>
      IO.eprintln s!"memory allocation of {bytes} bytes failed"
  | .rejected _ | .explained _ =>
      launch.errorLine.forM fun line => IO.eprintln line
  return launch.exitCode.getD abortedCode

end AudioMulticast

open AudioMulticast

/-- Start the program that the first argument names. -/
def main (arguments : List String) : IO UInt32 :=
  match arguments with
  | "sender" :: rest => start CommandLine.sender rest workAsSender
  | "receiver" :: rest => start CommandLine.receiver rest workAsReceiver
  | _ => do
      IO.eprintln "error: the first argument has to be sender or receiver"
      return 2
