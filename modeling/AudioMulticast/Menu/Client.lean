import AudioMulticast.Menu.Dial
import AudioMulticast.Menu.KeyReader

/-!
# Clients of the menu

Any number of telnet clients see the same menu, and each of them can move the selection.  A new client
is first asked for single keys without echo and sent the menu; later it is sent the menu whenever that
has changed, though only its latest state.
-/

namespace AudioMulticast
namespace Menu

/-- Asks a telnet client for single keys without echo. -/
def negotiation : Bytes :=
  [255, 251, 1, 255, 251, 3]

/-- What a new client is sent. -/
def greeting (board : Board) : Bytes :=
  negotiation ++ Bytes.ofText board.text

/-- A telnet client. -/
structure Client where
  /-- Reader of the keys. -/
  keys : KeyReader := {}
  /-- Revision of the menu that the client has been sent last. -/
  seen : Nat
  /-- Whether the client is served. -/
  isServed : Bool := true
  /-- Whether the client has hung up. -/
  isGone : Bool := false
  /-- What the client has been sent and has not looked at. -/
  inbox : Bytes := []
  deriving DecidableEq, Repr

namespace Client

/-- A client that has just connected. -/
def new (board : Board) : Client :=
  { seen := board.revision, inbox := greeting board }

/-- Send the menu to a client that has not seen it. -/
def update (client : Client) (board : Board) : Client :=
  match client.isServed, board.newsSince client.seen with
  | true, some text =>
      { client with seen := board.revision, inbox := client.inbox ++ Bytes.ofText text }
  | _, _ => client

/-- Read the bytes of a client, and apply the steps that they stand for. -/
def press (client : Client) (dial : Dial) (now : Nat) (bytes : Bytes) : Client × Dial :=
  if client.isServed then
    let (keys, directions) := client.keys.feed bytes
    ({ client with keys }, dial.moveAll now directions)
  else
    (client, dial)

/-- The client hangs up. -/
def hangUp (client : Client) : Client :=
  { client with isServed := false, isGone := true }

/-- The client is not served any more. -/
def dismiss (client : Client) : Client :=
  { client with isServed := false }

/-- Look at what has been sent, unless the client has hung up. -/
def look (client : Client) : Client × Option Bytes :=
  ({ client with inbox := [] }, if client.isGone then none else some client.inbox)

end Client
end Menu
end AudioMulticast
