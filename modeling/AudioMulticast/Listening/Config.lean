import AudioMulticast.Wire.ControlMessage

/-!
# Settings of a receiver

A receiver is set up with where it looks for stations, the size of its window, the station it prefers,
and the intervals of its periodic work.  The settings are checked one after another, and the first
fault is reported.  Times are milliseconds.
-/

namespace AudioMulticast
namespace Listening

/-- Settings of a receiver. -/
structure Config where
  /-- Address that lookups are sent to. -/
  discovery : Address := .broadcast
  /-- Port that lookups are sent to. -/
  controlPort : Port := 35830
  /-- Port of the menu. -/
  menuPort : Port := 15830
  /-- Number of audio bytes in the window. -/
  bufferSize : Nat := 65536
  /-- Least time between two requests for the same packet. -/
  requestInterval : Nat := 250
  /-- Name of the station that is selected as soon as it shows up. -/
  preferred : Option String := none
  /-- Time between two lookups. -/
  lookupInterval : Nat := 5000
  /-- Time between two checks whether playback has to start over. -/
  restartInterval : Nat := 20
  /-- Time between two rounds of requests. -/
  roundInterval : Nat := 10
  /-- How long a station may be silent. -/
  stationTimeout : Nat := 20000
  /-- Longest time that a receive call blocks. -/
  receiveTimeout : Nat := 500
  /-- Time between two looks for audio while there is none. -/
  playbackInterval : Nat := 5
  /-- Time between two drawings of the menu. -/
  refreshInterval : Nat := 250
  /-- Greatest number of ids in a request. -/
  maxRequestIds : Nat := 64
  /-- Number of bytes of a received datagram that are looked at. -/
  maxDatagram : Nat := 65507
  deriving DecidableEq, Repr

/-- What is wrong with the settings of a receiver. -/
inductive ConfigError where
  /-- The window would hold nothing. -/
  | zeroBuffer
  /-- Requests would be empty. -/
  | zeroRequestIds
  /-- Some work would never pause. -/
  | zeroInterval (name : String)
  deriving DecidableEq, Repr

/-- What is reported about faulty settings. -/
def ConfigError.message : ConfigError → String
  | .zeroBuffer => "buffer size must not be 0"
  | .zeroRequestIds => "retransmission requests must be allowed to contain at least one id"
  | .zeroInterval name => s!"{name} interval must not be 0"

namespace Config

/-- Where lookups are sent to. -/
def discoveryTarget (config : Config) : Endpoint :=
  { address := config.discovery, port := config.controlPort }

/-- All intervals with their names. -/
def intervals (config : Config) : List (String × Nat) :=
  [("retransmission", config.requestInterval), ("lookup", config.lookupInterval),
   ("reset check", config.restartInterval), ("retransmission check", config.roundInterval),
   ("station timeout", config.stationTimeout), ("receive timeout", config.receiveTimeout),
   ("playback poll", config.playbackInterval), ("UI refresh", config.refreshInterval)]

/-- Check the settings in order, and answer the first fault. -/
def validate (config : Config) : Except ConfigError Unit :=
  if config.bufferSize = 0 then .error .zeroBuffer
  else if config.maxRequestIds = 0 then .error .zeroRequestIds
  else
    match config.intervals.find? fun interval => interval.2 == 0 with
    | some (name, _) => .error (.zeroInterval name)
    | none => .ok ()

end Config
end Listening
end AudioMulticast
