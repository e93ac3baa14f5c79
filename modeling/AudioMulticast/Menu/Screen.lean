import AudioMulticast.Stations.Roster

/-!
# The menu on the screen

The menu is drawn as a text that first clears the screen.  Between two rules stand the title and,
below another rule, one line for each station, the selected one marked by an arrow.
-/

namespace AudioMulticast
namespace Menu

/-- The end of a line on a terminal. -/
def lineEnd : List Char := ['\r', '\n']

/-- A horizontal rule. -/
def rule : List Char :=
  List.replicate 72 '-' ++ lineEnd

/-- The line with the title. -/
def title : List Char :=
  " wavecast".toList ++ lineEnd

/-- What stands before a name. -/
def marker (isSelected : Bool) : List Char :=
  if isSelected then "  > ".toList else "    ".toList

/-- The line of a station. -/
def entryLine (entry : MenuEntry) : List Char :=
  marker entry.isSelected ++ entry.name.toList ++ lineEnd

/-- Moves the cursor home and clears the screen. -/
def clearScreen : List Char := "\x1b[H\x1b[2J".toList

/-- The text that draws a menu. -/
def render (entries : List MenuEntry) : List Char :=
  clearScreen ++ rule ++ title ++ rule ++ entries.flatMap entryLine ++ rule

/-- The text that is shown to all clients.  Its revision counts how often it has changed. -/
structure Board where
  /-- Text of the menu. -/
  text : List Char := render []
  /-- Number of changes so far. -/
  revision : Nat := 0
  deriving DecidableEq, Repr

namespace Board

/-- Draw a menu.  Nothing is published if the text is the same as before. -/
def publish (board : Board) (entries : List MenuEntry) : Board :=
  if render entries = board.text then board
  else { text := render entries, revision := board.revision + 1 }

/-- The text, if it has changed since a given revision. -/
def newsSince (board : Board) (revision : Nat) : Option (List Char) :=
  if revision < board.revision then some board.text else none

end Board
end Menu
end AudioMulticast
