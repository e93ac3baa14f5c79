import AudioMulticast.Broadcast.Input
import AudioMulticast.Service.Datagrams
import Std.Async.Signal

/-!
# The sender at work

The sender reads its input and sends it, answers what it receives on its control port, and sends
requested packets again in rounds.  The three tasks share one transmitter, which each of them changes
in one step.
-/

namespace AudioMulticast
namespace Service

open Broadcast Std.Async

/-- A sender with its sockets. -/
structure Sender where
  /-- State that the tasks share. -/
  transmitter : IO.Ref Transmitter
  /-- Socket for control messages. -/
  control : UDP.Socket
  /-- Socket for packets. -/
  data : UDP.Socket
  /-- Whether the run has been cancelled. -/
  isCancelled : IO.Ref Bool
  /-- What the sender tells about its work. -/
  report : Report

namespace Sender

/-- Number of bytes that are read from the input at a time: those of a packet. -/
def pieceLength (config : Config) : USize :=
  USize.ofNat config.packetSize

/-- Change the transmitter, and answer the datagrams that are to be sent. -/
def act (sender : Sender) (change : Transmitter → Transmitter × Channel) :
    IO (List (Endpoint × Bytes)) :=
  sender.transmitter.modifyGet fun transmitter =>
    let (changed, channel) := change transmitter
    (channel.sent.toList, changed)

/-- Attempt to send a packet until that works or the run has been cancelled. -/
def deliver (sender : Sender) (target : Endpoint) (packet : Bytes) : IO Unit := do
  repeat
    if ← attempt sender.report sender.data target packet then break
    if ← sender.isCancelled.get then break

/-- Send packets one after another. -/
def deliverAll (sender : Sender) (packets : List (Endpoint × Bytes)) : IO Unit :=
  packets.forM fun (target, packet) => sender.deliver target packet

/-- Answer what is received on the control port. -/
def answerControl (sender : Sender) (config : Config) : Async Unit := do
  repeat
    let (datagram, source) ← receive sender.control config.maxDatagram
    match source with
    | none => pure ()
    | some source =>
        sender.report.mention s!"control message of {datagram.length} bytes from {source}"
        let replies ← sender.act fun transmitter => transmitter.handleControl {} datagram source
        announceAll sender.report sender.control replies

/-- Send requested packets again in rounds. -/
def resendRequested (sender : Sender) (config : Config) : Async Unit := do
  repeat
    let packets ← sender.act fun transmitter => transmitter.resend {}
    sender.deliverAll packets
    rest config.resendInterval

/-- Take a piece of the input in, and send the packets that it completes. -/
def feed (sender : Sender) (input : Input) (piece : Bytes) : IO Input := do
  let fed ← sender.transmitter.modifyGet fun transmitter =>
    let fed := { input with transmitter, channel := {} }.feed piece
    (fed, fed.transmitter)
  sender.deliverAll fed.channel.sent.toList
  return fed

/-- Send the input until it ends or the run has been cancelled. -/
def sendInput (sender : Sender) (config : Config) (stream : IO.FS.Stream) : IO InputEnd := do
  let mut input : Input := { transmitter := ← sender.transmitter.get, channel := {} }
  repeat
    if ← sender.isCancelled.get then return .finished
    try
      let piece ← stream.read (pieceLength config)
      if piece.isEmpty then return .finished
      input ← sender.feed input piece.toList
    catch failure =>
      return .failed failure.toString
    if let some ending := input.ended then return ending
  return .finished

end Sender

/-- A session that is higher than those of earlier runs: the time in milliseconds. -/
def newSession : IO SessionId := do
  let time := (← Std.Time.Timestamp.now).toMillisecondsSinceUnixEpoch.toInt.toNat
  if Nat.pow 2 48 ≤ time then
    throw <| .userError "system clock is in the future"
  return Fin.ofNat Word.count time

/-- Run a sender until its input ends or it is interrupted. -/
def runSender (report : Report) (config : Config) : Async InputEnd := do
  let sender : Sender :=
    { transmitter := ← IO.mkRef (.new config (← newSession))
      control := ← openControlSocket config.controlPort
      data := ← openGroupSocket config.timeToLive
      isCancelled := ← IO.mkRef false
      report }
  report.tell s!"station {config.name} broadcasting to {config.target}"
  let interrupt ← Signal.Waiter.mk .sigint false
  let interrupted ← interrupt.wait
  background (sender.answerControl config)
  background (sender.resendRequested config)
  let input ← IO.asTask (do sender.sendInput config (← IO.getStdin)) .dedicated
  let untilEnd : Async InputEnd := await (t := Task) input >>= fun ending => ofExcept ending
  let ending ← Async.race untilEnd (do discard (await interrupted); return .finished)
  sender.isCancelled.set true
  return ending

end Service
end AudioMulticast
