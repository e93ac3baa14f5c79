import AudioMulticast.Menu.Screen
import AudioMulticast.Stations.Tuning

/-!
# Choosing a station

The dial joins the roster, what the receiver is tuned to, and the menu that clients see.  Whatever
changes the roster answers the selected station, and the receiver is then tuned to that.  The two are
separate steps, because replies, lookups and keys may come in between.
-/

namespace AudioMulticast
namespace Menu

/-- The stations, the choice among them, and the menu. -/
structure Dial where
  /-- The stations and the selected one. -/
  roster : Roster
  /-- Station and session that are played. -/
  tuning : Tuning := {}
  /-- The menu that clients see. -/
  board : Board := {}
  deriving DecidableEq, Repr

namespace Dial

/-- Tune to a station. -/
def tune (dial : Dial) (station : Option Station) : Dial :=
  { dial with tuning := (dial.tuning.choose station).1 }

/-- Draw the menu, and publish it if it has changed. -/
def refresh (dial : Dial) (now : Nat) : Dial :=
  let (roster, entries) := dial.roster.menu now
  { dial with roster, board := dial.board.publish entries }

/-- A station has replied. -/
def noteReply (dial : Dial) (now : Nat) (station : Station) : Dial :=
  let (roster, selected) := dial.roster.update now station
  { dial with roster }.tune selected

/-- Drop stations that are silent, which may change the selected one. -/
def recheck (dial : Dial) (now : Nat) : Dial :=
  let (roster, selected) := dial.roster.current now
  { dial with roster }.tune selected

/-- Move the selection by one step. -/
def move (dial : Dial) (now : Nat) (direction : Direction) : Dial :=
  let (roster, selected) := dial.roster.move now direction
  { dial with roster }.tune selected |>.refresh now

/-- Apply steps through the menu one after another. -/
def moveAll (dial : Dial) (now : Nat) (directions : List Direction) : Dial :=
  directions.foldl (fun dial direction => dial.move now direction) dial

end Dial
end Menu
end AudioMulticast
