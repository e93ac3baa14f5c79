import AudioMulticast.Text.Blank
import AudioMulticast.Wire.ControlMessage

/-!
# Settings of a sender

A sender is set up with the group that it sends to, the size of its packets, how much of the stream it
keeps, and the name of its station.  The settings are checked one after another, and the first fault is
reported.  Times are milliseconds.
-/

namespace AudioMulticast
namespace Broadcast

/-- Settings of a sender. -/
structure Config where
  /-- Multicast group that packets are sent to. -/
  group : Address
  /-- Port that packets are sent to. -/
  dataPort : Port := 25830
  /-- Port on which control messages are received. -/
  controlPort : Port := 35830
  /-- Number of audio bytes in a packet. -/
  packetSize : Nat := 512
  /-- Number of audio bytes kept for retransmission. -/
  cacheSize : Nat := 131072
  /-- Time between two rounds of retransmissions. -/
  resendInterval : Nat := 250
  /-- Name of the station. -/
  name : String := "Unnamed Station"
  /-- Longest time that a receive call blocks. -/
  receiveTimeout : Nat := 500
  /-- How many routers a packet may pass. -/
  timeToLive : Nat := 4
  /-- Number of bytes of a received datagram that are looked at. -/
  maxDatagram : Nat := 65507
  deriving DecidableEq, Repr

/-- What is wrong with the settings of a sender. -/
inductive ConfigError where
  /-- Packets cannot be sent to this address. -/
  | notMulticast (address : Address)
  /-- Packets would be empty. -/
  | zeroPacketSize
  /-- Packets would not fit into a datagram. -/
  | packetTooLarge (size : Nat)
  /-- Not a single packet could be kept. -/
  | cacheTooSmall (size : Nat)
  /-- Retransmissions would never pause. -/
  | zeroInterval
  /-- The name has no visible character. -/
  | emptyName
  /-- The name would not fit into a line. -/
  | brokenName
  deriving DecidableEq, Repr

/-- What is reported about faulty settings. -/
def ConfigError.message : ConfigError → String
  | .notMulticast address => s!"{address} is not a multicast address"
  | .zeroPacketSize => "packet size must not be 0"
  | .packetTooLarge size => s!"packet size {size} does not fit into a single datagram"
  | .cacheTooSmall size => s!"cache size {size} is smaller than a single packet"
  | .zeroInterval => "retransmission interval must not be 0"
  | .emptyName => "station name must not be empty"
  | .brokenName => "station name must be a single line"

namespace Config

/-- Where packets are sent to. -/
def target (config : Config) : Endpoint :=
  { address := config.group, port := config.dataPort }

/-- Number of packets that are kept for retransmission. -/
def cacheCapacity (config : Config) : Nat :=
  1 + (max config.cacheSize 1 - 1) / max config.packetSize 1

/-- The reply to lookups. -/
def reply (config : Config) : Reply :=
  { address := config.group, port := config.dataPort, name := config.name }

/-- Check the settings in order, and answer the first fault. -/
def validate (config : Config) : Except Overflow (Except ConfigError Unit) := do
  if !config.group.isMulticast then
    return .error (.notMulticast config.group)
  if config.packetSize = 0 then
    return .error .zeroPacketSize
  let datagram ← Word.add config.packetSize DataPacket.headerLength
  if config.maxDatagram < datagram then
    return .error (.packetTooLarge config.packetSize)
  if config.cacheSize < config.packetSize then
    return .error (.cacheTooSmall config.cacheSize)
  if config.resendInterval = 0 then
    return .error .zeroInterval
  if Text.trim config.name.toList = [] then
    return .error .emptyName
  if '\n' ∈ config.name.toList then
    return .error .brokenName
  return .ok ()

end Config
end Broadcast
end AudioMulticast
