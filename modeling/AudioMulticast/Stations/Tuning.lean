import AudioMulticast.Stations.Station

/-!
# What the receiver is tuned to

The receiver plays one session of one station.  Whenever either changes, playback has to start over:
a flag is raised, and packets are ignored until the flag has been taken notice of, since they belong
to the stream that is being given up.
-/

namespace AudioMulticast

/-- The station and session that a receiver plays. -/
structure Tuning where
  /-- Station to be played. -/
  station : Option Station := none
  /-- Highest session of the station that was seen, or zero. -/
  session : SessionId := 0
  /-- Whether playback has to start over. -/
  restart : Bool := false
  deriving DecidableEq, Repr

namespace Tuning

/-- Take notice of the flag and lower it.  Answers the station and whether the flag was raised. -/
def collect (tuning : Tuning) : Tuning × Option Station × Bool :=
  ({ tuning with restart := false }, tuning.station, tuning.restart)

/-- Choose the station to be played, and answer whether that is a change.  The sessions of another
station have nothing to do with those before. -/
def choose (tuning : Tuning) (station : Option Station) : Tuning × Bool :=
  if tuning.station.map Station.identity = station.map Station.identity then
    ({ tuning with station }, false)
  else
    ({ station, session := 0, restart := true }, true)

/-- Look at the session of a packet, and answer whether the packet is to be ignored.  A higher session
means that the sender was restarted: it is adopted, and playback starts over. -/
def screen (tuning : Tuning) (session : SessionId) : Tuning × Bool :=
  if tuning.restart then (tuning, true)
  else if session < tuning.session then (tuning, true)
  else if session = tuning.session then (tuning, false)
  else ({ tuning with session, restart := true }, true)

/-- Demand that playback starts over. -/
def demandRestart (tuning : Tuning) : Tuning :=
  { tuning with restart := true }

end Tuning
end AudioMulticast
