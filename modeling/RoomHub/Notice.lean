import RoomHub.ChatLog
import RoomHub.Connection.End
import RoomHub.ConnectionId
import RoomHub.Log.Level
import RoomHub.Refusal
import RoomHub.Token.Verifier

/-!
# Notices

What the server reports in its log, each with a level and a wording.
-/

namespace RoomHub

/-- Something worth reporting. -/
inductive Notice where
  | hubStarted (room : RoomId)
  | registered (id : ConnectionId) (room : RoomId) (members : Nat)
  | unregistered (id : ConnectionId) (room : RoomId)
  | queueFull (id : ConnectionId) (room : RoomId)
  | queueClosed (id : ConnectionId) (room : RoomId)
  | broadcasted (kind : MessageKind) (sender : UserId) (members : Nat) (room : RoomId)
  | admitted (user : UserId) (room : RoomId) (id : ConnectionId)
  | roomClosed (room : RoomId) (closedBy : UserId)
  | nothingToClose (room : RoomId)
  | roomSkipped (room : RoomId) (why : HubClosed)
  | chatNotSaved (sender : UserId) (room : RoomId) (why : ChatLogError)
  | chatLogUnreadable (room : RoomId) (why : ChatLogError)
  | chatLogRead (user : UserId) (count : Nat) (room : RoomId)
  | tokenRejected (why : Token.TokenFault)
  | authenticated (user : UserId)
  | connectionRejected (room : String) (why : AdmissionError)
  | upgradeNotAdmitted (why : AdmissionError)
  | originIgnored (origin : String)
  | frameDropped (kind : MessageKind) (user : UserId)
  | readStopped (id : ConnectionId) (room : RoomId) (why : ReadEnd)
  | writeStopped (id : ConnectionId) (room : RoomId) (why : WriteEnd)
  | writerCrashed (id : ConnectionId)
  | notUnregistered (id : ConnectionId) (why : HubClosed)

namespace Notice

/-- The level of a notice. -/
def level : Notice → Level
  | .hubStarted _ | .registered .. | .unregistered .. | .admitted .. | .roomClosed ..
  | .nothingToClose _ | .readStopped .. | .writeStopped .. => .info
  | .broadcasted .. | .queueClosed .. | .chatLogRead .. | .authenticated _ => .debug
  | .queueFull .. | .roomSkipped .. | .tokenRejected _ | .connectionRejected ..
  | .originIgnored _ | .frameDropped .. | .notUnregistered .. => .warn
  | .chatNotSaved .. | .chatLogUnreadable .. | .upgradeNotAdmitted _ | .writerCrashed _ => .error

/-- The wording of a notice. -/
def text : Notice → String
  | .hubStarted room => s!"Hub for room '{room}' started"
  | .registered id room members =>
    s!"Connection {id} registered to room '{room}' ({members} members)"
  | .unregistered id room => s!"Connection {id} unregistered from room '{room}'"
  | .queueFull id room => s!"Outbound queue of connection {id} in room '{room}' is full, evicting"
  | .queueClosed id room =>
    s!"Outbound queue of connection {id} in room '{room}' is closed, removing"
  | .broadcasted kind sender members room =>
    s!"Broadcasted {kind} message from '{sender}' to {members} members of room '{room}'"
  | .admitted user room id => s!"User '{user}' admitted to room '{room}' as connection {id}"
  | .roomClosed room closedBy => s!"Room '{room}' closed by '{closedBy}'"
  | .nothingToClose room => s!"Room '{room}' has no hub, nothing to notify"
  | .roomSkipped room why => s!"Skipping room '{room}': {why.message}"
  | .chatNotSaved sender room why =>
    s!"Error saving chat message from '{sender}' in room '{room}': {why.message}"
  | .chatLogUnreadable room why => s!"Failed to read chat log of room '{room}': {why.message}"
  | .chatLogRead user count room => s!"User '{user}' read {count} chat log entries of room '{room}'"
  | .tokenRejected why => s!"JWT validation failed: {why.logForm}"
  | .authenticated user => s!"Authenticated '{user}' from bearer token"
  | .connectionRejected room why => s!"Rejected connection to room '{room}': {why.message}"
  | .upgradeNotAdmitted why => s!"Failed to admit upgraded connection: {why.message}"
  | .originIgnored origin => s!"Ignoring invalid CORS origin '{origin}'"
  | .frameDropped kind user => s!"Dropping '{kind}' frame from '{user}'"
  | .readStopped id room why =>
    s!"Read pump of connection {id} in room '{room}' stopped: {why.logForm}"
  | .writeStopped id room why =>
    s!"Write pump of connection {id} in room '{room}' stopped: {why.logForm}"
  | .writerCrashed id => s!"Write pump of connection {id}"
  | .notUnregistered id why => s!"Failed to unregister connection {id}: {why.message}"

/-- The line of a notice: its level and its wording. -/
def line (n : Notice) : String := s!"{n.level.name} {n.text}"

end Notice
end RoomHub
