import AudioMulticast.Text.Decimal

/-!
# Network endpoints

Addresses are written as four decimal octets between dots, and read back only in exactly that form:
an octet has no sign and no leading zero.  An endpoint is an address and a port.  Not every port of a
host can be listened on, since another program may do that already.
-/

namespace AudioMulticast

open Text

/-- The number of a port. -/
abbrev Port := UInt16

namespace Port

/-- The port that a text stands for: a decimal number below `2 ^ 16`. -/
def ofText? (text : List Char) : Option Port :=
  (Decimal.ofText? 65536 text).map UInt16.ofNat

end Port

/-- A network address of four octets. -/
structure Address where
  /-- Most significant octet. -/
  first : UInt8
  /-- Second octet. -/
  second : UInt8
  /-- Third octet. -/
  third : UInt8
  /-- Least significant octet. -/
  fourth : UInt8
  deriving DecidableEq, Repr

namespace Address

/-- The address of every host on the local network. -/
def broadcast : Address := ⟨255, 255, 255, 255⟩

/-- The address that stands for all interfaces of a host. -/
def unspecified : Address := ⟨0, 0, 0, 0⟩

/-- Whether an address names a multicast group. -/
def isMulticast (address : Address) : Bool :=
  224 ≤ address.first && address.first ≤ 239

/-- The octets of an address, most significant first. -/
def octets (address : Address) : List UInt8 :=
  [address.first, address.second, address.third, address.fourth]

/-- An address as four decimal octets between dots. -/
def render (address : Address) : List Char :=
  ['.'].intercalate (address.octets.map fun octet => Decimal.digits octet.toNat)

/-- The octet that a text stands for, in its only spelling. -/
def octet? (text : List Char) : Option UInt8 :=
  ((Decimal.ofDigits? text).filter fun value =>
    value < 256 && Decimal.digits value == text).map UInt8.ofNat

/-- The address that a text stands for. -/
def ofText? (text : List Char) : Option Address :=
  match (text.splitOn '.').map octet? with
  | [some first, some second, some third, some fourth] => some ⟨first, second, third, fourth⟩
  | _ => none

instance : ToString Address where
  toString address := String.ofList address.render

end Address

/-- Where datagrams are sent to or come from. -/
structure Endpoint where
  /-- Address of the host or group. -/
  address : Address
  /-- Port at that address. -/
  port : Port
  deriving DecidableEq, Repr

namespace Endpoint

/-- The endpoint that a text with a colon between address and port stands for. -/
def ofText? (text : List Char) : Option Endpoint :=
  match text.splitOn ':' with
  | [address, port] => do
    let address ← Address.ofText? address
    let port ← Port.ofText? port
    return { address, port }
  | _ => none

instance : ToString Endpoint where
  toString endpoint := toString endpoint.address ++ ":" ++ toString endpoint.port.toNat

end Endpoint

/-- The host that a program runs on. -/
structure Host where
  /-- Whether a port can be listened on. -/
  isFree : Port → Bool

end AudioMulticast
