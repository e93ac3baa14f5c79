import AudioMulticast.Listening.Player
import AudioMulticast.Menu.Client
import AudioMulticast.Service.Datagrams
import Std.Async.Signal
import Std.Async.TCP

/-!
# The receiver at work

The receiver looks for stations, receives the stream of the selected one, requests what is missing,
writes the audio to its output, and serves its menu.  These tasks run side by side and share one
receiver, which each of them changes in one step.  The task that receives the stream is also the one
that starts over, so no packet of the stream before is taken for one of the new stream.
-/

namespace AudioMulticast
namespace Service

open Listening Menu Std.Async

/-- A receiver with its socket. -/
structure Listener where
  /-- State that the tasks share. -/
  receiver : IO.Ref Receiver
  /-- Socket for control messages. -/
  control : UDP.Socket
  /-- Whether the run has been cancelled. -/
  isCancelled : IO.Ref Bool
  /-- What the receiver tells about its work. -/
  report : Report

/-- How playback ends. -/
inductive PlaybackEnd where
  /-- The run has been interrupted. -/
  | interrupted
  /-- The output failed, for the given reason. -/
  | failed (reason : String)
  /-- A calculation failed. -/
  | crashed (calculation : Overflow)
  deriving DecidableEq, Inhabited, Repr

namespace Listener

/-- Change the receiver. -/
def act {α : Type} (listener : Listener) (change : Receiver → Receiver × α) : IO α :=
  listener.receiver.modifyGet fun receiver => (change receiver).swap

/-- Change the receiver by a calculation, which may fail and then changes nothing. -/
def calculate {α : Type} (listener : Listener) (change : Receiver → Except Overflow (Receiver × α)) :
    IO (Except Overflow α) :=
  listener.act fun receiver =>
    match change receiver with
    | .ok (changed, answer) => (changed, .ok answer)
    | .error calculation => (receiver, .error calculation)

/-- Send the control messages of a channel. -/
def announce (listener : Listener) (channel : Channel) : IO Unit :=
  announceAll listener.report listener.control channel.sent.toList

/-! ## Stations -/

/-- Look for stations at intervals. -/
def lookUp (listener : Listener) (config : Config) : Async Unit := do
  repeat
    let now ← IO.monoMsNow
    listener.announce (← listener.act fun receiver => receiver.lookUp now {})
    rest config.lookupInterval

/-- Note the replies of stations. -/
def noteReplies (listener : Listener) (config : Config) : Async Unit := do
  repeat
    let (datagram, source) ← receive listener.control config.maxDatagram
    match source with
    | none => pure ()
    | some source =>
        listener.report.mention s!"control message of {datagram.length} bytes from {source}"
        let now ← IO.monoMsNow
        listener.act fun receiver => (receiver.handleControl now datagram source, ())

/-! ## The stream -/

/-- Subscribe to the stream of the selected station, if there is one and that is possible. -/
def openStream (listener : Listener) : IO (Option (Endpoint × UDP.Socket)) := do
  match (← listener.receiver.get).station with
  | none => return none
  | some station =>
      try
        return some (station.stream, ← subscribe station.stream)
      catch failure =>
        listener.report.tell s!"could not subscribe to {station.stream}: {failure}"
        return none

/-- Start over, and answer the socket of the new subscription.  If another station was selected while
the socket was opened, this is going to be repeated. -/
def restart (listener : Listener) : IO (Option UDP.Socket) := do
  let opened ← listener.openStream
  let host : Host := { isFree := fun _ => opened.isSome }
  listener.act fun receiver =>
    let restarted := receiver.restartIfDue host
    match restarted.subscription, opened with
    | some stream, some (target, socket) =>
        if stream = target then (restarted, some socket) else (restarted.demandRestart, none)
    | none, _ => (restarted, none)
    | some _, none => (restarted.demandRestart, none)

/-- Wait for a datagram of the stream, but no longer than a given time. -/
def awaitPacket (config : Config) (socket : UDP.Socket) (duration : Nat) :
    Async (Option Bytes) := do
  Selectable.one
    #[.case (socket.recvSelector (UInt64.ofNat config.maxDatagram))
        fun (datagram, _) => return some datagram.toList,
      .case (← Selector.sleep (.ofNat duration)) fun _ => return none]

/-- Receive the stream, and start over when that is due. -/
def receiveStream (listener : Listener) (config : Config) : Async Unit := do
  let mut socket : Option UDP.Socket := none
  repeat
    if (← listener.receiver.get).isRestartDue then
      socket ← listener.restart
    match socket with
    | none => rest config.restartInterval
    | some stream =>
        match ← awaitPacket config stream config.restartInterval with
        | none => pure ()
        | some datagram =>
            let now ← IO.monoMsNow
            let outcome ← listener.calculate fun receiver => do
              return (← receiver.receiveData now datagram, ())
            if let .error calculation := outcome then
              listener.report.tell calculation.message
              return

/-- Request missing packets in rounds. -/
def requestMissing (listener : Listener) (config : Config) : Async Unit := do
  let mut forgotten : List PacketId := []
  repeat
    let now ← IO.monoMsNow
    let known := forgotten
    let (channel, next) ← listener.act fun receiver => receiver.requestMissing now {} known
    listener.announce channel
    forgotten := next
    rest config.roundInterval

/-- Write the audio to an output, at the pace of the output, until that fails or the run has been
cancelled. -/
def play (listener : Listener) (config : Config) (output : IO.FS.Stream) : IO PlaybackEnd := do
  repeat
    if ← listener.isCancelled.get then return .interrupted
    match ← listener.calculate Receiver.takePiece with
    | .error calculation => return .crashed calculation
    | .ok none =>
        output.flush
        IO.sleep (UInt32.ofNat config.playbackInterval)
    | .ok (some piece) =>
        try
          output.write ⟨piece.toArray⟩
        catch failure =>
          return .failed failure.toString
  return .interrupted

/-! ## The menu -/

/-- Draw the menu at intervals. -/
def refreshMenu (listener : Listener) (config : Config) : Async Unit := do
  repeat
    let now ← IO.monoMsNow
    listener.act fun receiver => (receiver.refresh now, ())
    rest config.refreshInterval

/-- Time after which a client is shown a new menu at the latest. -/
def clientInterval : Nat := 20

/-- Serve a client of the menu until it hangs up. -/
def serveClient (listener : Listener) (stream : TCP.Socket.Client) : Async Unit := do
  let mut client := Client.new (← listener.receiver.get).board
  repeat
    let (looked, sent) := client.look
    match sent with
    | some (first :: rest) => stream.send ⟨(first :: rest).toArray⟩
    | _ => pure ()
    let keys : Option (Option ByteArray) ← Selectable.one
      #[.case (stream.recvSelector 256) fun keys => return some keys,
        .case (← Selector.sleep (.ofNat clientInterval)) fun _ => return none]
    match keys with
    | some none => break
    | some (some keys) =>
        let now ← IO.monoMsNow
        let pressed ← listener.act fun receiver =>
          let (pressed, dial) := looked.press receiver.dial now keys.toList
          (receiver.withDial dial, pressed)
        client := pressed.update (← listener.receiver.get).board
    | none => client := looked.update (← listener.receiver.get).board

/-- Accept the clients of the menu. -/
def acceptClients (listener : Listener) (server : TCP.Socket.Server) : Async Unit := do
  repeat
    let stream ← server.accept
    background (listener.serveClient stream)

end Listener

/-- Number of clients that may wait to be accepted. -/
def waitingClients : UInt32 := 128

/-- Run a receiver until its output fails or it is interrupted. -/
def runReceiver (report : Report) (config : Config) : Async PlaybackEnd := do
  let listener : Listener :=
    { receiver := ← IO.mkRef (.new config)
      control := ← openControlSocket 0
      isCancelled := ← IO.mkRef false
      report }
  let server ← TCP.Socket.Server.mk
  server.bind (socketAddress { address := .unspecified, port := config.menuPort })
  server.listen waitingClients
  report.tell s!"looking for stations at {config.discoveryTarget}"
  let interrupt ← Signal.Waiter.mk .sigint false
  let interrupted ← interrupt.wait
  background (listener.noteReplies config)
  background (listener.lookUp config)
  background (listener.requestMissing config)
  background (listener.receiveStream config)
  background (listener.refreshMenu config)
  background (listener.acceptClients server)
  let playback ← IO.asTask (do listener.play config (← IO.getStdout)) .dedicated
  let untilEnd : Async PlaybackEnd := await (t := Task) playback >>= fun ending => ofExcept ending
  let ending ← Async.race untilEnd (do discard (await interrupted); return .interrupted)
  listener.isCancelled.set true
  return ending

end Service
end AudioMulticast
