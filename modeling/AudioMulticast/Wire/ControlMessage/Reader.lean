import AudioMulticast.Text.Blank
import AudioMulticast.Wire.ControlMessage

/-!
# Reading control messages

The keyword decides about the kind of a message.  What follows is read leniently: line ends are
ignored, the words of a reply may stand any white space apart, and entries of a retransmission
request that are not numbers are skipped.
-/

namespace AudioMulticast
namespace ControlMessage

open Text

/-- Whether a character ends a line. -/
def isLineEnd (c : Char) : Bool :=
  c == '\r' || c == '\n'

/-- The text behind a keyword, if the text starts with the keyword as a word of its own. -/
def afterKeyword (keyword text : List Char) : Option (List Char) :=
  if keyword.isPrefixOf text then
    match text.drop keyword.length with
    | [] => some []
    | ' ' :: rest => some (trimStart rest)
    | _ => none
  else
    none

/-- The announcement that a text stands for: an address, a port, and the words of a name. -/
def readReply? (text : List Char) : Option Reply :=
  match words text with
  | address :: port :: name :: more => do
    let address ← Address.ofText? address
    let port ← Port.ofText? port
    return { address, port, name := String.ofList (unwords (name :: more)) }
  | _ => none

/-- The id that an entry of a retransmission request stands for. -/
def readId? (entry : List Char) : Option PacketId :=
  (Decimal.ofText? Word.count (trim entry)).bind Word.ofNat?

/-- The ids among the entries of a retransmission request. -/
def readIds (text : List Char) : List PacketId :=
  (text.splitOn ',').filterMap readId?

/-- The message that a line of text stands for. -/
def ofLine (text : List Char) : Except ControlMessageError ControlMessage :=
  if (afterKeyword ControlMessageKind.lookup.keyword text).isSome then
    .ok .lookup
  else if let some rest := afterKeyword ControlMessageKind.reply.keyword text then
    match readReply? rest with
    | some found => .ok (.reply found)
    | none => .error (.malformedReply (String.ofList rest))
  else if let some rest := afterKeyword ControlMessageKind.request.keyword text then
    .ok (.request (readIds rest))
  else
    .error (.unknownKind (String.ofList text))

/-- The message that a datagram stands for. -/
def decode (bytes : Bytes) : Except ControlMessageError ControlMessage :=
  match bytes.toText? with
  | some text => ofLine (dropEndWhile isLineEnd text)
  | none => .error .notText

end ControlMessage
end AudioMulticast
