import AudioMulticast.Wire.Bytes
import AudioMulticast.Wire.Endpoint
import Std.Async.Timer
import Std.Async.UDP

/-!
# Datagram sockets

How the sockets of the host are opened, and how datagrams are sent and received on them.  What goes
wrong with a single datagram is reported, and the program goes on.
-/

namespace AudioMulticast
namespace Service

open Std.Async Std.Net

/-- What a program tells about its work. -/
structure Report where
  /-- Whether more than usual is told. -/
  isVerbose : Bool

namespace Report

/-- Tell something. -/
def tell (_ : Report) (text : String) : IO Unit :=
  IO.eprintln text

/-- Tell something that matters only to those who want to know more than usual. -/
def mention (report : Report) (text : String) : IO Unit :=
  if report.isVerbose then IO.eprintln text else pure ()

end Report

/-- An endpoint as sockets know it. -/
def socketAddress (endpoint : Endpoint) : SocketAddress :=
  let address := endpoint.address
  .v4
    { addr := .ofParts address.first address.second address.third address.fourth
      port := endpoint.port }

/-- The endpoint that a socket names, if it has an address of four octets. -/
def endpointOf : SocketAddress → Option Endpoint
  | .v4 place =>
      match place.addr.octets.toList with
      | [first, second, third, fourth] =>
          some { address := ⟨first, second, third, fourth⟩, port := place.port }
      | _ => none
  | .v6 _ => none

/-- Open a socket at a port; port zero stands for any that is free. -/
def openSocket (port : Port) : IO UDP.Socket := do
  let socket ← UDP.Socket.mk
  socket.bind (socketAddress { address := .unspecified, port })
  return socket

/-- Open a socket that sends to any host or to all of them. -/
def openControlSocket (port : Port) : IO UDP.Socket := do
  let socket ← openSocket port
  socket.setBroadcast true
  return socket

/-- Open a socket that sends to a multicast group, across as many routers as given. -/
def openGroupSocket (timeToLive : Nat) : IO UDP.Socket := do
  let socket ← openSocket 0
  socket.setMulticastTTL (UInt32.ofNat timeToLive)
  return socket

/-- Subscribe to a stream.  An address that is not that of a group says nothing about where packets
come from, so then only the port matters. -/
def subscribe (stream : Endpoint) : IO UDP.Socket := do
  let socket ← openSocket stream.port
  if stream.address.isMulticast then
    let address := stream.address
    let group := IPv4Addr.ofParts address.first address.second address.third address.fourth
    socket.setMembership (.v4 group) none .enterGroup
  return socket

/-- Attempt to send a datagram, and answer whether that worked. -/
def attempt (report : Report) (socket : UDP.Socket) (target : Endpoint) (datagram : Bytes) :
    IO Bool := do
  try
    (socket.send ⟨datagram.toArray⟩ (socketAddress target)).block
    return true
  catch failure =>
    report.tell s!"could not send to {target}: {failure}"
    return false

/-- Attempt once to send each of some datagrams. -/
def announceAll (report : Report) (socket : UDP.Socket) (sent : List (Endpoint × Bytes)) :
    IO Unit :=
  sent.forM fun (target, datagram) => discard (attempt report socket target datagram)

/-- Receive a datagram, with the endpoint that it comes from. -/
def receive (socket : UDP.Socket) (size : Nat) : Async (Bytes × Option Endpoint) := do
  let (datagram, source) ← socket.recv (UInt64.ofNat size)
  return (datagram.toList, source.bind endpointOf)

/-- Let some time pass. -/
def rest (duration : Nat) : Async Unit :=
  sleep (.ofNat duration)

end Service
end AudioMulticast
