import AudioMulticast.Stations.Roster
import AudioMulticast.Text.Blank
import AudioMulticast.Wire.Bytes

/-!
# Reading keys

A client's bytes are turned into steps through the menu.  The arrow keys arrive as escape sequences;
`up` and `down` may also be typed as lines.  Telnet commands are skipped.  Sequences and lines may
arrive in pieces, so the reader keeps what it has seen of them.
-/

namespace AudioMulticast
namespace Menu

/-- What the next byte of a client belongs to. -/
inductive KeyPhase where
  /-- To a typed line. -/
  | text
  /-- To an escape sequence that has just begun. -/
  | escape
  /-- To an escape sequence, whose last byte it is. -/
  | arrow
  /-- To a telnet command. -/
  | command
  /-- To a telnet command, whose option it is. -/
  | option
  deriving DecidableEq, Repr

/-- A reader of keys, with the line that is being typed. -/
structure KeyReader where
  /-- What the next byte belongs to. -/
  phase : KeyPhase := .text
  /-- The line so far. -/
  line : List Char := []
  deriving DecidableEq, Repr

/-- Greatest number of characters of a line that are kept. -/
def maxLineLength : Nat := 64

/-- The step that a line stands for. -/
def commandOfLine (line : List Char) : Option Direction :=
  let word := (Text.trim line).map Char.toLower
  if word = "up".toList then some .up
  else if word = "down".toList then some .down
  else none

/-- Whether a byte ends a line. -/
def endsLine (byte : UInt8) : Bool :=
  byte == 13 || byte == 10 || byte == 0

/-- Whether a byte is a printable ASCII character or a blank. -/
def isTypable (byte : UInt8) : Bool :=
  32 ≤ byte && byte ≤ 126

/-- Whether a telnet command is followed by an option. -/
def takesOption (byte : UInt8) : Bool :=
  251 ≤ byte && byte ≤ 254

namespace KeyReader

/-- Take a character into the line, if there is room. -/
def type (reader : KeyReader) (byte : UInt8) : KeyReader :=
  if reader.line.length < maxLineLength && isTypable byte then
    { reader with line := reader.line ++ [Char.ofNat byte.toNat] }
  else
    reader

/-- Read one byte. -/
def step (reader : KeyReader) (byte : UInt8) : KeyReader × Option Direction :=
  match reader.phase with
  | .text =>
      if byte = 27 then ({ reader with phase := .escape }, none)
      else if byte = 255 then ({ reader with phase := .command }, none)
      else if endsLine byte then ({ reader with line := [] }, commandOfLine reader.line)
      else (reader.type byte, none)
  | .escape =>
      if byte = 91 || byte = 79 then ({ reader with phase := .arrow }, none)
      else ({ reader with phase := .text }, none)
  | .arrow =>
      ({ reader with phase := .text },
        if byte = 65 then some .up else if byte = 66 then some .down else none)
  | .command =>
      if takesOption byte then ({ reader with phase := .option }, none)
      else ({ reader with phase := .text }, none)
  | .option => ({ reader with phase := .text }, none)

/-- Read bytes, and answer the steps that they stand for. -/
def feed (reader : KeyReader) : Bytes → KeyReader × List Direction
  | [] => (reader, [])
  | byte :: rest =>
      let (next, direction) := reader.step byte
      let (last, directions) := next.feed rest
      (last, direction.toList ++ directions)

end KeyReader
end Menu
end AudioMulticast
