import RoomHub.Identity
import RoomHub.Calendar.Instant

/-!
# Messages

The unit of data that a hub hands out.  Sender, room and time of a message are always set by the
server: `Message.ofClient` stamps what a client sends, `Message.joined` announces a newcomer and
`Message.roomClosed` tells a room that it is closed.
-/

namespace RoomHub

open Calendar

/-- What a message is about. -/
inductive MessageKind where
  | edit
  | chat
  | roomClosed
  deriving DecidableEq, Repr, Inhabited

/-- The name of a kind on the wire. -/
def MessageKind.name : MessageKind → String
  | .edit => "edit"
  | .chat => "chat"
  | .roomClosed => "room_closed"

instance : ToString MessageKind := ⟨MessageKind.name⟩

/-- A message after the server has stamped it. -/
structure Message where
  kind : MessageKind
  senderId : UserId
  senderName : DisplayName
  content : String
  timestamp : Instant
  roomId : RoomId
  deriving DecidableEq

namespace Message

/-- The text that every member of a closed room receives. -/
def closureNotice : String := "Room has been closed by admin. You will be logged out."

/-- Stamps a client's content with its identity, the room and the time. -/
def ofClient (kind : MessageKind) (content : String) (sender : Identity) (room : RoomId)
    (now : Instant) : Message :=
  { kind := kind, senderId := sender.userId, senderName := sender.displayName
    content := content, timestamp := now, roomId := room }

/-- The notice that a user has entered the room. -/
def joined (user : Identity) (room : RoomId) (now : Instant) : Message :=
  ofClient .chat s!"{user.displayName} joined the room" user room now

/-- The notice that an administrator has closed the room. -/
def roomClosed (closedBy : UserId) (room : RoomId) (now : Instant) : Message :=
  { kind := .roomClosed, senderId := closedBy, senderName := DisplayName.system
    content := closureNotice, timestamp := now, roomId := room }

/-- Only chat messages enter the chat log. -/
def isChat (m : Message) : Bool :=
  m.kind = .chat

end Message
end RoomHub
