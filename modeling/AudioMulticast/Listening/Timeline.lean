import AudioMulticast.Listening.Player
import AudioMulticast.Menu.Client

/-!
# A receiver in time

All tasks of a receiver run side by side from time zero on.  Between the moments at which one of them
is due nothing happens, so time passes from one such moment to the next, in whole milliseconds.
Lookups, rounds of requests, checks whether to start over, and drawings of the menu are repeated at
fixed intervals; playback looks for audio after a pause.

The task that receives the stream holds the subscription from one datagram to the next, up to a
timeout.  A task that wants to start over meanwhile has to wait for it, and packets that arrive before
that are ignored, since the flag is up.  Starting over replaces the subscription, and whatever has
arrived and has not been looked at is lost with the one before.
-/

namespace AudioMulticast
namespace Listening

open Menu Playback

/-- What the task that receives the stream is doing. -/
inductive Intake where
  /-- There was no subscription, and it looks for one again at this time. -/
  | pausing (untilTime : Nat)
  /-- It holds the subscription and waits for a datagram up to this time. -/
  | receiving (untilTime : Nat)
  deriving DecidableEq, Repr

/-- The time up to which the task that receives the stream waits. -/
def Intake.untilTime : Intake → Nat
  | .pausing untilTime => untilTime
  | .receiving untilTime => untilTime

/-- A receiver with all its tasks at one moment. -/
structure Timeline where
  /-- Host that the receiver runs on. -/
  host : Host
  /-- State that the tasks share. -/
  receiver : Receiver
  /-- Current time. -/
  now : Nat := 0
  /-- Channel that control messages are sent on. -/
  channel : Channel := {}
  /-- Output that audio is written to. -/
  output : Output := {}
  /-- Time of the next lookup. -/
  nextLookup : Nat := 0
  /-- Time of the next round of requests. -/
  nextRound : Nat := 0
  /-- Packets that the next round is to forget. -/
  forgotten : List PacketId := []
  /-- Time of the next check whether to start over. -/
  nextCheck : Nat := 0
  /-- Whether starting over waits for the subscription. -/
  isRestartWaiting : Bool := false
  /-- What the task that receives the stream is doing. -/
  intake : Intake := .pausing 0
  /-- Datagrams of the stream that have not been looked at. -/
  arrived : List Bytes := []
  /-- Time at which playback looks for audio next. -/
  nextPlay : Nat := 0
  /-- Time of the next drawing of the menu. -/
  nextRefresh : Nat := 0
  /-- The client of the menu, if there is one. -/
  client : Option Client := none
  /-- Whether the run is over. -/
  isOver : Bool := false

namespace Timeline

/-- How late periodic work may be done without being put off. -/
def tolerance : Nat := 5

/-- The time at which work that was to be done at `due` and is done at `now` is done next. -/
def following (due now interval : Nat) : Nat :=
  if due + tolerance < now then now + interval else due + interval

/-- End the run. -/
def stop (timeline : Timeline) : Timeline :=
  { timeline with isOver := true, client := timeline.client.map Client.dismiss }

/-- Send the menu to the client if it has not seen it. -/
def updateClient (timeline : Timeline) : Timeline :=
  { timeline with client := timeline.client.map fun client => client.update timeline.receiver.board }

/-- Look for stations at the times for that. -/
def lookUpIfDue (timeline : Timeline) : Timeline :=
  if timeline.nextLookup ≤ timeline.now then
    let (receiver, channel) := timeline.receiver.lookUp timeline.now timeline.channel
    { timeline with
      receiver
      channel
      nextLookup := timeline.nextLookup + timeline.receiver.config.lookupInterval }
  else
    timeline

/-- Draw the menu at the times for that. -/
def refreshIfDue (timeline : Timeline) : Timeline :=
  if timeline.nextRefresh ≤ timeline.now then
    { timeline with
      receiver := timeline.receiver.refresh timeline.now
      nextRefresh := timeline.nextRefresh + timeline.receiver.config.refreshInterval }
  else
    timeline

/-- Request missing packets at the times for that. -/
def requestIfDue (timeline : Timeline) : Timeline :=
  if timeline.nextRound ≤ timeline.now then
    let (receiver, channel, forgotten) :=
      timeline.receiver.requestMissing timeline.now timeline.channel timeline.forgotten
    { timeline with
      receiver
      channel
      forgotten
      nextRound := timeline.nextRound + timeline.receiver.config.roundInterval }
  else
    timeline

/-- Play what there is at the times for that.  The run is over when the output fails. -/
def playIfDue (timeline : Timeline) : Except Overflow Timeline := do
  if timeline.nextPlay ≤ timeline.now then
    let (receiver, output) ← timeline.receiver.play timeline.output
    let played :=
      { timeline with
        receiver
        output
        nextPlay := timeline.now + timeline.receiver.config.playbackInterval }
    return if output.hasFailed then played.stop else played
  else
    return timeline

/-- Start over. -/
def restart (timeline : Timeline) : Timeline :=
  { timeline with
    receiver := timeline.receiver.restartIfDue timeline.host
    arrived := []
    isRestartWaiting := false }

/-- Begin to receive, or pause if there is no subscription. -/
def beginIntake (timeline : Timeline) : Timeline :=
  let config := timeline.receiver.config
  { timeline with
    intake :=
      if timeline.receiver.subscription.isSome then
        .receiving (timeline.now + config.receiveTimeout)
      else
        .pausing (timeline.now + config.restartInterval) }

/-- Let go of the subscription, which may be waited for, and begin again. -/
def endReceive (timeline : Timeline) : Timeline :=
  (if timeline.isRestartWaiting then timeline.restart else timeline).beginIntake

/-- Look at datagrams one after another, as long as the subscription that they arrived at is held. -/
def takeIn : List Bytes → Timeline → Except Overflow Timeline
  | [], timeline => .ok { timeline with arrived := [] }
  | datagram :: rest, timeline =>
      match timeline.intake with
      | .pausing _ => .ok { timeline with arrived := datagram :: rest }
      | .receiving _ => do
        let receiver ← timeline.receiver.receiveData timeline.now datagram
        let received := { timeline with receiver }
        if received.isRestartWaiting then
          return received.endReceive
        else
          takeIn rest received.endReceive

/-- Look at the datagrams that have arrived. -/
def takeInArrived (timeline : Timeline) : Except Overflow Timeline :=
  takeIn timeline.arrived timeline

/-- End a pause or a receive call that has taken long enough. -/
def intakeIfDue (timeline : Timeline) : Except Overflow Timeline :=
  match timeline.intake with
  | .pausing untilTime =>
      if untilTime ≤ timeline.now then timeline.beginIntake.takeInArrived else .ok timeline
  | .receiving untilTime =>
      if untilTime ≤ timeline.now then .ok timeline.endReceive else .ok timeline

/-- Start over at the times for that, or wait for the subscription. -/
def restartIfDue (timeline : Timeline) : Timeline :=
  if timeline.nextCheck ≤ timeline.now && !timeline.isRestartWaiting then
    let interval := timeline.receiver.config.restartInterval
    let checked :=
      { timeline with nextCheck := following timeline.nextCheck timeline.now interval }
    if checked.receiver.isRestartDue then
      match checked.intake with
      | .pausing _ => checked.restart
      | .receiving _ => { checked with isRestartWaiting := true }
    else
      checked
  else
    timeline

/-- All that the tasks do at the current time. -/
def act (timeline : Timeline) : Except Overflow Timeline := do
  if timeline.isOver then
    return timeline
  let received ← timeline.lookUpIfDue.refreshIfDue.intakeIfDue
  let played ← received.restartIfDue.requestIfDue.playIfDue
  return played.updateClient

/-- The time at which some task is due, as long as nothing happens before. -/
def nextDue (timeline : Timeline) : Nat :=
  let others :=
    [timeline.nextRound, timeline.nextPlay, timeline.nextRefresh, timeline.intake.untilTime]
  (if timeline.isRestartWaiting then others else timeline.nextCheck :: others).foldl min
    timeline.nextLookup

/-- Let time pass up to `stop`.  The tasks have acted at `now`, so none is due before the next
millisecond. -/
def passTo (stop now : Nat) (timeline : Timeline) : Except Overflow Timeline :=
  let next := max (now + 1) timeline.nextDue
  if _within : next ≤ stop ∧ timeline.isOver = false then do
    let acted ← { timeline with now := next }.act
    passTo stop next acted
  else
    .ok { timeline with now := stop }
  termination_by stop - now
  decreasing_by omega

/-- Let time pass. -/
def pass (duration : Nat) (timeline : Timeline) : Except Overflow Timeline :=
  timeline.passTo (timeline.now + duration) timeline.now

/-- The receiver at time zero, with room for the given number of pieces in its output. -/
def start (host : Host) (config : Config) (room : Option Nat) : Except Overflow Timeline :=
  { host, receiver := .new config, output := { room } : Timeline }.act

/-- Datagrams arrive on the control port. -/
def receiveControl (timeline : Timeline) (datagrams : List Bytes) (source : Endpoint) :
    Timeline :=
  if timeline.isOver then
    timeline
  else
    { timeline with
      receiver := timeline.receiver.receiveControl timeline.now datagrams source }

/-- Datagrams of the stream arrive, unless there is no subscription.  The second component tells
whether there is one. -/
def receiveData (timeline : Timeline) (datagrams : List Bytes) :
    Except Overflow (Timeline × Bool) := do
  if timeline.receiver.subscription.isNone then
    return (timeline, false)
  let arrived := { timeline with arrived := timeline.arrived ++ datagrams }
  if timeline.isOver then
    return (arrived, true)
  return ((← arrived.takeInArrived).restartIfDue, true)

/-- A client connects if there is none, and bytes arrive from it. -/
def press (timeline : Timeline) (bytes : Bytes) : Timeline :=
  let client := timeline.client.getD (Client.new timeline.receiver.board)
  let (client, dial) := client.press timeline.receiver.dial timeline.now bytes
  let pressed :=
    { timeline with client := some client, receiver := timeline.receiver.withDial dial }
  pressed.updateClient

/-- What the client has been sent since the last look, if there is a client. -/
def look (timeline : Timeline) : Timeline × Option Bytes :=
  match timeline.client with
  | none => (timeline, none)
  | some client =>
      let (client, sent) := client.look
      ({ timeline with client := some client }, sent)

end Timeline
end Listening
end AudioMulticast
