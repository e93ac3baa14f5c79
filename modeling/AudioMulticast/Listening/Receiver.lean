import AudioMulticast.Clock
import AudioMulticast.Listening.Config
import AudioMulticast.Menu.Dial
import AudioMulticast.Menu.KeyReader
import AudioMulticast.Playback.Reception
import AudioMulticast.Wire.Channel
import AudioMulticast.Wire.ControlMessage.Reader

/-!
# The receiver

The receiver looks for stations, plays the selected one and requests the packets that are missing.
Its work is divided into tasks that run side by side: each of the functions here is what one task does
at one moment, or does for some time while the other tasks rest.  Times are milliseconds.
-/

namespace AudioMulticast
namespace Listening

open Menu Playback

/-- A receiver at work. -/
structure Receiver where
  /-- Settings of the receiver. -/
  config : Config
  /-- The stations. -/
  roster : Roster
  /-- The menu that clients see. -/
  board : Board := {}
  /-- The stream that is received. -/
  reception : Reception
  /-- The stream whose packets reach the receiver. -/
  subscription : Option Endpoint := none

namespace Receiver

/-- A receiver that does not know any station. -/
def new (config : Config) : Receiver :=
  { config
    roster := { timeout := config.stationTimeout, preferred := config.preferred }
    reception := .new config.bufferSize config.requestInterval }

/-- The part of the receiver that is concerned with the choice of a station. -/
def dial (receiver : Receiver) : Dial :=
  { roster := receiver.roster, tuning := receiver.reception.tuning, board := receiver.board }

/-- Replace the part of the receiver that is concerned with the choice of a station. -/
def withDial (receiver : Receiver) (dial : Dial) : Receiver :=
  { receiver with
    roster := dial.roster
    board := dial.board
    reception := { receiver.reception with tuning := dial.tuning } }

/-- The station that is played. -/
def station (receiver : Receiver) : Option Station :=
  receiver.reception.tuning.station

/-- Whether playback has to start over. -/
def isRestartDue (receiver : Receiver) : Bool :=
  receiver.reception.tuning.restart

/-! ## Finding stations -/

/-- Handle a datagram that was received on the control port.  Only replies matter. -/
def handleControl (receiver : Receiver) (now : Nat) (datagram : Bytes) (source : Endpoint) :
    Receiver :=
  match ControlMessage.decode datagram with
  | .ok (.reply reply) =>
      receiver.withDial (receiver.dial.noteReply now (.ofReply reply source now))
  | .ok .lookup => receiver
  | .ok (.request _) => receiver
  | .error _ => receiver

/-- Receive datagrams on the control port. -/
def receiveControl (receiver : Receiver) (now : Nat) (datagrams : List Bytes)
    (source : Endpoint) : Receiver :=
  let handle (receiver : Receiver) (datagram : Bytes) : Receiver :=
    receiver.handleControl now (datagram.take receiver.config.maxDatagram) source
  datagrams.foldl handle receiver

/-- Look for stations, and drop those that are silent. -/
def lookUp (receiver : Receiver) (now : Nat) (channel : Channel) : Receiver × Channel :=
  (receiver.withDial (receiver.dial.recheck now),
    channel.announce receiver.config.discoveryTarget .lookup)

/-- Look for stations for some time, unless the run is cancelled before that. -/
def lookUpFor (receiver : Receiver) (now duration : Nat) (channel : Channel) :
    Receiver × Channel :=
  workUntil (fun state => state.2.cancelled) (fun state time => state.1.lookUp time state.2)
    (ticks receiver.config.lookupInterval now duration) (receiver, channel)

/-! ## Choosing a station -/

/-- Draw the menu. -/
def refresh (receiver : Receiver) (now : Nat) : Receiver :=
  receiver.withDial (receiver.dial.refresh now)

/-- Move the selection. -/
def moveAll (receiver : Receiver) (now : Nat) (directions : List Direction) : Receiver :=
  receiver.withDial (receiver.dial.moveAll now directions)

/-- The lines of the menu. -/
def menu (receiver : Receiver) (now : Nat) : Receiver × List MenuEntry :=
  let (roster, entries) := receiver.roster.menu now
  ({ receiver with roster }, entries)

/-! ## Starting over -/

/-- Demand that playback starts over. -/
def demandRestart (receiver : Receiver) : Receiver :=
  { receiver with reception := receiver.reception.demandRestart }

/-- Subscribe to the stream of a station.  Where that is not possible, it is tried again. -/
def subscribe (receiver : Receiver) (host : Host) (station : Station) : Receiver :=
  if host.isFree station.stream.port then
    { receiver with subscription := some station.stream }
  else
    receiver.demandRestart

/-- Give up the stream, and subscribe to that of a station if there is one. -/
def restart (receiver : Receiver) (host : Host) (station : Option Station) : Receiver :=
  let emptied := { receiver with reception := receiver.reception.reset, subscription := none }
  match station with
  | none => emptied
  | some station => emptied.subscribe host station

/-- Start over if that is due. -/
def restartIfDue (receiver : Receiver) (host : Host) : Receiver :=
  let (tuning, station, isDue) := receiver.reception.tuning.collect
  if isDue then
    { receiver with reception := { receiver.reception with tuning } }.restart host station
  else
    receiver

/-- Start over whenever that is due, for some time. -/
def restartFor (receiver : Receiver) (host : Host) (now duration : Nat) : Receiver :=
  (ticks receiver.config.restartInterval now duration).foldl
    (fun receiver _ => receiver.restartIfDue host) receiver

/-! ## Receiving the stream -/

/-- Receive a datagram of the stream. -/
def receiveData (receiver : Receiver) (now : Nat) (datagram : Bytes) :
    Except Overflow Receiver := do
  let (reception, _) ←
    receiver.reception.receiveDatagram now (datagram.take receiver.config.maxDatagram)
  return { receiver with reception }

/-- Receive datagrams of the stream, unless there is no subscription.  The second component tells
whether there is one. -/
def takeIn (receiver : Receiver) (now : Nat) (datagrams : List Bytes) :
    Except Overflow (Receiver × Bool) := do
  if receiver.subscription.isNone then
    return (receiver, false)
  let handle (receiver : Receiver) (datagram : Bytes) : Except Overflow Receiver :=
    receiver.receiveData now datagram
  return (← datagrams.foldlM handle receiver, true)

/-- Request packets from the station that is played. -/
def request (receiver : Receiver) (channel : Channel) (ids : List PacketId) : Channel :=
  match receiver.station with
  | none => channel
  | some station =>
      (ControlMessage.requests ids receiver.config.maxRequestIds).foldl
        (fun channel message => channel.announce station.control message) channel

/-- Request the packets that are missing, in one round.  The last component lists the packets that the
next round is to forget. -/
def requestMissing (receiver : Receiver) (now : Nat) (channel : Channel)
    (forgotten : List PacketId) : Receiver × Channel × List PacketId :=
  let (reception, round) := receiver.reception.nextRound now forgotten
  ({ receiver with reception }, receiver.request channel round.request, round.forget)

/-- Request the packets that are missing for some time, unless the run is cancelled before that. -/
def requestMissingFor (receiver : Receiver) (now duration : Nat) (channel : Channel) :
    Receiver × Channel :=
  let (receiver, channel, _) :=
    workUntil (fun state => state.2.1.cancelled)
      (fun state time => state.1.requestMissing time state.2.1 state.2.2)
      (ticks receiver.config.roundInterval now duration) (receiver, channel, [])
  (receiver, channel)

end Receiver
end Listening
end AudioMulticast
