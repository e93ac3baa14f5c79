import AudioMulticast.Text.Quoted
import AudioMulticast.Wire.DataPacket
import AudioMulticast.Wire.Endpoint

/-!
# Control messages

Receivers look for senders, senders reply with the place of their stream, and receivers request
packets that did not arrive.  Each message is one line of text in one datagram: a keyword, then what
the message carries, then a line feed.
-/

namespace AudioMulticast

open Text

/-- A sender's answer to a lookup. -/
structure Reply where
  /-- Group that the stream is sent to. -/
  address : Address
  /-- Port that the stream is sent to. -/
  port : Port
  /-- Name of the station. -/
  name : String
  deriving DecidableEq, Repr

/-- The endpoint at which the announced stream can be received. -/
def Reply.stream (reply : Reply) : Endpoint :=
  { address := reply.address, port := reply.port }

/-- A message between receivers and senders. -/
inductive ControlMessage where
  /-- A receiver looks for senders. -/
  | lookup
  /-- A sender announces its stream. -/
  | reply (reply : Reply)
  /-- A receiver asks for packets to be sent again. -/
  | request (ids : List PacketId)
  deriving DecidableEq, Repr

/-- The kinds of control messages. -/
inductive ControlMessageKind where
  /-- The kind of lookups. -/
  | lookup
  /-- The kind of replies. -/
  | reply
  /-- The kind of retransmission requests. -/
  | request
  deriving DecidableEq, Repr

/-- What is wrong with a control message. -/
inductive ControlMessageError where
  /-- The datagram is not a text. -/
  | notText
  /-- The text does not start with a keyword. -/
  | unknownKind (text : String)
  /-- The text after the keyword does not announce a stream. -/
  | malformedReply (text : String)
  /-- A message of another kind was expected. -/
  | wrongKind (expected actual : ControlMessageKind)
  deriving DecidableEq, Repr

namespace ControlMessageKind

/-- The name of a kind. -/
def name : ControlMessageKind → String
  | .lookup => "lookup"
  | .reply => "reply"
  | .request => "retransmission request"

/-- The keyword that a message of a kind starts with. -/
def keyword : ControlMessageKind → List Char
  | .lookup => "ZERO_SEVEN_COME_IN".toList
  | .reply => "BOREWICZ_HERE".toList
  | .request => "LOUDER_PLEASE".toList

end ControlMessageKind

/-- What is reported about a faulty control message. -/
def ControlMessageError.message : ControlMessageError → String
  | .notText => "control message is not valid text"
  | .unknownKind text => "unknown control message " ++ quote text
  | .malformedReply text => "malformed reply " ++ quote text
  | .wrongKind expected actual =>
      "expected a " ++ expected.name ++ " message, got a " ++ actual.name ++ " message"

/-- The parts of a list, each as long as `size` allows, the last one perhaps shorter. -/
def inGroups {α : Type} (size : Nat) : List α → List (List α)
  | [] => []
  | first :: rest => (first :: rest.take (size - 1)) :: inGroups size (rest.drop (size - 1))
  termination_by items => items.length

namespace ControlMessage

/-- The kind of a message. -/
def kind : ControlMessage → ControlMessageKind
  | .lookup => .lookup
  | .reply _ => .reply
  | .request _ => .request

/-- Whether a message is a lookup. -/
def isLookup (message : ControlMessage) : Bool := message.kind == .lookup

/-- Whether a message is a reply. -/
def isReply (message : ControlMessage) : Bool := message.kind == .reply

/-- Whether a message is a retransmission request. -/
def isRequest (message : ControlMessage) : Bool := message.kind == .request

/-- The ids of a retransmission request. -/
def requestedIds : ControlMessage → Except ControlMessageError (List PacketId)
  | .request ids => .ok ids
  | other => .error (.wrongKind .request other.kind)

/-- The announcement of a reply. -/
def announcement : ControlMessage → Except ControlMessageError Reply
  | .reply sent => .ok sent
  | other => .error (.wrongKind .reply other.kind)

/-- What a message carries behind its keyword. -/
def content : ControlMessage → List Char
  | .lookup => []
  | .reply sent =>
      ' ' :: sent.address.render ++ ' ' :: Decimal.digits sent.port.toNat ++
        ' ' :: sent.name.toList
  | .request ids => ' ' :: [','].intercalate (ids.map fun id => Decimal.digits id.val)

/-- The text of a message, without its line feed. -/
def render (message : ControlMessage) : List Char :=
  message.kind.keyword ++ message.content

/-- The text of a message as a line. -/
def line (message : ControlMessage) : List Char :=
  message.render ++ ['\n']

/-- The bytes of a message. -/
def encode (message : ControlMessage) : Bytes :=
  Bytes.ofText message.line

/-- Retransmission requests for a list of ids, none of them for more than `size` ids. -/
def requests (ids : List PacketId) (size : Nat) : List ControlMessage :=
  (inGroups size ids).map .request

end ControlMessage
end AudioMulticast
