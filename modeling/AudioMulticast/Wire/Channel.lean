import AudioMulticast.Wire.ControlMessage

/-!
# Sending

A channel stands for an outgoing socket whose attempts may fail.  Control messages are attempted once.
Audio packets are attempted again and again until one attempt succeeds, or until the run that the
packet belongs to has been cancelled.
-/

namespace AudioMulticast

/-- An outgoing socket, with what has been and what will become of the attempts to send. -/
structure Channel where
  /-- How many attempts fail before each of the next deliveries.  No attempt fails after those. -/
  failures : List Nat := []
  /-- The run is cancelled during the attempt with this number. -/
  cancelDuring : Option Nat := none
  /-- Whether the run has been cancelled. -/
  cancelled : Bool := false
  /-- Number of attempts so far. -/
  attempts : Nat := 0
  /-- The datagrams sent so far, with their destinations, in order. -/
  sent : Array (Endpoint × Bytes) := #[]
  deriving DecidableEq, Repr

namespace Channel

/-- A channel whose first `count` attempts fail. -/
def failing (count : Nat) : Channel :=
  { failures := [count] }

/-- Count an attempt, and notice a cancellation during it. -/
def count (channel : Channel) : Channel :=
  { channel with
    attempts := channel.attempts + 1
    cancelled := channel.cancelled || channel.cancelDuring == some (channel.attempts + 1) }

/-- Record a datagram as sent. -/
def deliver (channel : Channel) (target : Endpoint) (datagram : Bytes) : Channel :=
  { channel with sent := channel.sent.push (target, datagram) }

/-- Attempt to send a datagram, and answer whether it was sent. -/
def attempt (channel : Channel) (target : Endpoint) (datagram : Bytes) : Channel × Bool :=
  match channel.failures with
  | [] => (channel.count.deliver target datagram, true)
  | 0 :: failures => ({ channel.count with failures }.deliver target datagram, true)
  | (more + 1) :: failures => ({ channel.count with failures := more :: failures }, false)

/-- Attempt to send a datagram until it is sent or the run is cancelled.  The given number of attempts
fail before one succeeds, and `failures` tells about the attempts after that. -/
def sendAfter (target : Endpoint) (datagram : Bytes) (failures : List Nat) :
    Nat → Channel → Channel × Bool
  | 0, channel => ({ channel.count with failures }.deliver target datagram, true)
  | more + 1, channel =>
      if channel.count.cancelled then
        ({ channel.count with failures := more :: failures }, false)
      else
        sendAfter target datagram failures more channel.count

/-- Attempt to send a datagram until it is sent or the run is cancelled, and answer whether it was
sent. -/
def send (channel : Channel) (target : Endpoint) (datagram : Bytes) : Channel × Bool :=
  sendAfter target datagram channel.failures.tail (channel.failures.headD 0) channel

/-- Attempt to send a control message once. -/
def announce (channel : Channel) (target : Endpoint) (message : ControlMessage) : Channel :=
  (channel.attempt target message.encode).1

end Channel
end AudioMulticast
