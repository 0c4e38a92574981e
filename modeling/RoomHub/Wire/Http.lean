import RoomHub.ChatLog
import RoomHub.Json.Record
import RoomHub.Json.Writer

/-!
# Records in HTTP answers

The members and rooms of a listing, the entries of a chat log, the answer to a closing request and
the body of a refusal.  Each can be written and read.
-/

namespace RoomHub.Wire

open Json

/-- One connection of a room. -/
structure Member where
  connectionId : String
  userId : String
  displayName : String
  deriving DecidableEq, Repr

namespace Member

/-- The record as JSON. -/
def write (m : Member) : List Char :=
  writeObject [("connection_id", writeText m.connectionId), ("user_id", writeText m.userId),
    ("display_name", writeText m.displayName)]

/-- The fields read so far. -/
structure Fields where
  connectionId : Option String := none
  userId : Option String := none
  displayName : Option String := none

/-- All three fields are required. -/
def record : Record Fields Member where
  name := "MemberDto"
  fields :=
    [.of "connection_id" false (·.connectionId) (fun s x => { s with connectionId := some x })
        readString,
      .of "user_id" false (·.userId) (fun s x => { s with userId := some x }) readString,
      .of "display_name" false (·.displayName) (fun s x => { s with displayName := some x })
        readString]
  empty := {}
  finish s := do
    let connectionId ← required "connection_id" s.connectionId
    let userId ← required "user_id" s.userId
    let displayName ← required "display_name" s.displayName
    return ⟨connectionId, userId, displayName⟩

end Member

/-- A room and its members. -/
structure RoomSummary where
  id : String
  memberCount : Nat
  members : List Member
  deriving DecidableEq, Repr

namespace RoomSummary

/-- The record as JSON. -/
def write (r : RoomSummary) : List Char :=
  writeObject [("id", writeText r.id), ("member_count", writeInteger r.memberCount),
    ("members", writeArray (r.members.map Member.write))]

/-- The fields read so far. -/
structure Fields where
  id : Option String := none
  memberCount : Option Nat := none
  members : Option (List Member) := none

/-- All three fields are required. -/
def record : Record Fields RoomSummary where
  name := "RoomSummaryDto"
  fields :=
    [.of "id" false (·.id) (fun s x => { s with id := some x }) readString,
      .of "member_count" false (·.memberCount) (fun s x => { s with memberCount := some x })
        readUnsigned64,
      .of "members" false (·.members) (fun s x => { s with members := some x })
        (readArray Member.record.read)]
  empty := {}
  finish s := do
    let id ← required "id" s.id
    let memberCount ← required "member_count" s.memberCount
    let members ← required "members" s.members
    return ⟨id, memberCount, members⟩

end RoomSummary

/-- An entry of a chat log. -/
structure ChatLine where
  roomId : String
  senderId : String
  senderName : String
  content : String
  timestamp : String
  deriving DecidableEq, Repr

namespace ChatLine

/-- The record of an entry for HTTP answers, its time in milliseconds. -/
def ofEntry (e : ChatLogEntry) : ChatLine :=
  ⟨e.roomId.text, e.senderId.text, e.senderName.text, e.content, e.timestamp.toMillisText⟩

/-- The record of an entry with its exact time. -/
def ofEntryExact (e : ChatLogEntry) : ChatLine :=
  { ofEntry e with timestamp := e.timestamp.toText }

/-- The record as JSON. -/
def write (e : ChatLine) : List Char :=
  writeObject [("room_id", writeText e.roomId), ("sender_id", writeText e.senderId),
    ("sender_name", writeText e.senderName), ("content", writeText e.content),
    ("timestamp", writeText e.timestamp)]

/-- The fields read so far. -/
structure Fields where
  roomId : Option String := none
  senderId : Option String := none
  senderName : Option String := none
  content : Option String := none
  timestamp : Option String := none

/-- All five fields are required. -/
def record : Record Fields ChatLine where
  name := "ChatLogEntryDto"
  fields :=
    [.of "room_id" false (·.roomId) (fun s x => { s with roomId := some x }) readString,
      .of "sender_id" false (·.senderId) (fun s x => { s with senderId := some x }) readString,
      .of "sender_name" false (·.senderName) (fun s x => { s with senderName := some x }) readString,
      .of "content" false (·.content) (fun s x => { s with content := some x }) readString,
      .of "timestamp" false (·.timestamp) (fun s x => { s with timestamp := some x }) readString]
  empty := {}
  finish s := do
    let roomId ← required "room_id" s.roomId
    let senderId ← required "sender_id" s.senderId
    let senderName ← required "sender_name" s.senderName
    let content ← required "content" s.content
    let timestamp ← required "timestamp" s.timestamp
    return ⟨roomId, senderId, senderName, content, timestamp⟩

end ChatLine

/-- The answer to a closing request. -/
structure Closure where
  message : String
  notified : Bool
  deriving DecidableEq, Repr

namespace Closure

/-- The record as JSON. -/
def write (c : Closure) : List Char :=
  writeObject [("message", writeText c.message), ("notified", writeFlag c.notified)]

/-- The fields read so far. -/
structure Fields where
  message : Option String := none
  notified : Option Bool := none

/-- Both fields are required. -/
def record : Record Fields Closure where
  name := "CloseRoomResponseDto"
  fields :=
    [.of "message" false (·.message) (fun s x => { s with message := some x }) readString,
      .of "notified" false (·.notified) (fun s x => { s with notified := some x }) readFlag]
  empty := {}
  finish s := do
    let message ← required "message" s.message
    let notified ← required "notified" s.notified
    return ⟨message, notified⟩

end Closure

/-- The body of a refusal. -/
structure Failure where
  error : String
  errorCode : String
  deriving DecidableEq, Repr

namespace Failure

/-- The record as JSON. -/
def write (f : Failure) : List Char :=
  writeObject [("error", writeText f.error), ("error_code", writeText f.errorCode)]

/-- The fields read so far. -/
structure Fields where
  error : Option String := none
  errorCode : Option String := none

/-- Both fields are required. -/
def record : Record Fields Failure where
  name := "ErrorResponse"
  fields :=
    [.of "error" false (·.error) (fun s x => { s with error := some x }) readString,
      .of "error_code" false (·.errorCode) (fun s x => { s with errorCode := some x }) readString]
  empty := {}
  finish s := do
    let error ← required "error" s.error
    let errorCode ← required "error_code" s.errorCode
    return ⟨error, errorCode⟩

end Failure

end RoomHub.Wire
