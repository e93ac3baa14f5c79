import AudioMulticast.Clock
import AudioMulticast.Menu.Client

/-!
# Serving the menu

The server accepts clients, draws the menu at every refresh, and stops together with the run that it
belongs to.  Times are milliseconds.
-/

namespace AudioMulticast
namespace Menu

/-- A server of the menu. -/
structure Server where
  /-- The stations and the menu. -/
  dial : Dial
  /-- The clients in the order in which they connected. -/
  clients : List Client := []
  /-- Whether the server has not been stopped. -/
  isRunning : Bool := true
  /-- Current time. -/
  now : Nat := 0
  deriving DecidableEq, Repr

namespace Server

/-- Time between two refreshes of the menu. -/
def refreshInterval : Nat := 250

/-- A server that has drawn the menu once, with stations that may be silent for `timeout`. -/
def new (timeout : Nat) : Server :=
  { dial := { roster := { timeout } } }

/-- Send the menu to those clients that have not seen it. -/
def updateClients (server : Server) : Server :=
  { server with clients := server.clients.map fun client => client.update server.dial.board }

/-- Draw the menu now. -/
def refresh (server : Server) : Server :=
  { server with dial := server.dial.refresh server.now }.updateClients

/-- A client connects. -/
def connect (server : Server) : Server :=
  let client := { Client.new server.dial.board with isServed := server.isRunning }
  { server with clients := server.clients ++ [client] }

/-- What a client is sent that connects to the port of the server, if the server runs. -/
def serve (server : Server) : Option Bytes :=
  if server.isRunning then some (greeting server.dial.board) else none

/-- Bytes arrive from a client. -/
def press (server : Server) (index : Nat) (bytes : Bytes) : Server :=
  match server.clients[index]? with
  | none => server
  | some client =>
      let (client, dial) := client.press server.dial server.now bytes
      { server with dial, clients := server.clients.set index client }.updateClients

/-- A client hangs up. -/
def hangUp (server : Server) (index : Nat) : Server :=
  { server with clients := server.clients.modify index Client.hangUp }

/-- A station replies, without effect on what is played. -/
def noteStation (server : Server) (station : Station) : Server :=
  let (roster, _) := server.dial.roster.update server.now station
  { server with dial := { server.dial with roster } }

/-- Let time pass. -/
def pass (server : Server) (duration : Nat) : Server :=
  let stop := server.now + duration
  let refreshes :=
    if server.isRunning then multiplesBetween refreshInterval server.now stop else []
  let last := refreshes.foldl (fun server time => { server with now := time }.refresh) server
  { last with now := stop }

/-- Stop the server. -/
def stop (server : Server) : Server :=
  { server with isRunning := false, clients := server.clients.map Client.dismiss }

/-- What each client has been sent since the last look. -/
def look (server : Server) : Server × List (Option Bytes) :=
  ({ server with clients := server.clients.map fun client => client.look.1 },
    server.clients.map fun client => client.look.2)

end Server
end Menu
end AudioMulticast
