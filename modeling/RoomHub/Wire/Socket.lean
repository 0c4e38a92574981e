import RoomHub.Json.Record
import RoomHub.Json.Writer
import RoomHub.Message

/-!
# Records on a socket

What a client sends (`Inbound`) and what every member receives (`Outbound`).  A client's record has
a kind and a content; all other members of its object are passed over.
-/

namespace RoomHub.Wire

open Json

/-- The kinds of messages under their names. -/
def messageKinds : List (String × MessageKind) :=
  [MessageKind.edit, .chat, .roomClosed].map fun k => (k.name, k)

/-- Reads a kind of message. -/
def readKind : Reader MessageKind := readChoice messageKinds

/-- A record sent by a client. -/
structure Inbound where
  kind : MessageKind
  content : String
  deriving DecidableEq, Repr

namespace Inbound

/-- The fields read so far. -/
structure Fields where
  kind : Option MessageKind := none
  content : Option String := none

/-- A kind and a content, which is empty if it is absent. -/
def record : Record Fields Inbound where
  name := "InboundMessage"
  fields :=
    [.of "type" false (·.kind) (fun s k => { s with kind := some k }) readKind,
      .of "content" true (·.content) (fun s c => { s with content := some c }) readString]
  empty := {}
  finish s := do
    let kind ← required "type" s.kind
    return { kind := kind, content := s.content.getD "" }

/-- Reads a client's record from the bytes of a frame. -/
def decode (bytes : List UInt8) : Except Report Inbound :=
  Json.decode record.read bytes

end Inbound

/-- A record sent to the members of a room. -/
structure Outbound where
  kind : MessageKind
  senderId : String
  senderName : String
  content : String
  timestamp : String
  roomId : String
  deriving DecidableEq, Repr

namespace Outbound

/-- The record of a message. -/
def ofMessage (m : Message) : Outbound where
  kind := m.kind
  senderId := m.senderId.text
  senderName := m.senderName.text
  content := m.content
  timestamp := m.timestamp.toMillisText
  roomId := m.roomId.text

/-- The record as JSON. -/
def write (o : Outbound) : List Char :=
  writeObject [("type", writeText o.kind.name), ("sender_id", writeText o.senderId),
    ("sender_name", writeText o.senderName), ("content", writeText o.content),
    ("timestamp", writeText o.timestamp), ("room_id", writeText o.roomId)]

/-- The fields read so far. -/
structure Fields where
  kind : Option MessageKind := none
  senderId : Option String := none
  senderName : Option String := none
  content : Option String := none
  timestamp : Option String := none
  roomId : Option String := none

/-- All six fields are required. -/
def record : Record Fields Outbound where
  name := "OutboundMessage"
  fields :=
    [.of "type" false (·.kind) (fun s x => { s with kind := some x }) readKind,
      .of "sender_id" false (·.senderId) (fun s x => { s with senderId := some x }) readString,
      .of "sender_name" false (·.senderName) (fun s x => { s with senderName := some x }) readString,
      .of "content" false (·.content) (fun s x => { s with content := some x }) readString,
      .of "timestamp" false (·.timestamp) (fun s x => { s with timestamp := some x }) readString,
      .of "room_id" false (·.roomId) (fun s x => { s with roomId := some x }) readString]
  empty := {}
  finish s := do
    let kind ← required "type" s.kind
    let senderId ← required "sender_id" s.senderId
    let senderName ← required "sender_name" s.senderName
    let content ← required "content" s.content
    let timestamp ← required "timestamp" s.timestamp
    let roomId ← required "room_id" s.roomId
    return ⟨kind, senderId, senderName, content, timestamp, roomId⟩

end Outbound

/-- The text frame that carries a message. -/
def messageText (m : Message) : String :=
  String.ofList (Outbound.ofMessage m).write

end RoomHub.Wire
