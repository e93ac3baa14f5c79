import AudioMulticast.Wire.ControlMessage

/-!
# Stations

A station is a sender as a receiver knows it from its last reply.  Two records describe the same
station if name and endpoints agree; the time of the reply only tells whether the station is stale.
Times are milliseconds.
-/

namespace AudioMulticast

/-- A sender that has replied to a lookup. -/
structure Station where
  /-- Name that is shown to the listener. -/
  name : String
  /-- Where control messages to the station go. -/
  control : Endpoint
  /-- Where the station's stream can be received. -/
  stream : Endpoint
  /-- When the station replied last. -/
  lastReply : Nat
  deriving DecidableEq, Repr

namespace Station

/-- The station that a reply announces. -/
def ofReply (reply : Reply) (source : Endpoint) (now : Nat) : Station :=
  { name := reply.name, control := source, stream := reply.stream, lastReply := now }

/-- What makes a station the same station. -/
def identity (station : Station) : String × Endpoint × Endpoint :=
  (station.name, station.control, station.stream)

/-- Whether a station has been silent for longer than `timeout`. -/
def isStale (station : Station) (now timeout : Nat) : Bool :=
  timeout < now - station.lastReply

end Station
end AudioMulticast
