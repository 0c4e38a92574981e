import RoomHub.Message

/-!
# The chat log

For every room the last chat messages said in it, oldest first, at most `capacity` of them.
`ChatLog.save` refuses all other kinds of messages; a failing log refuses everything.
-/

namespace RoomHub

open Calendar

/-- Why the chat log does not do what it is asked. -/
inductive ChatLogError where
  | unsupportedKind (kind : MessageKind)
  | storage (reason : String)
  deriving DecidableEq, Repr

/-- The wording of a chat log error. -/
def ChatLogError.message : ChatLogError → String
  | .unsupportedKind kind => s!"message kind '{kind}' is not stored in the chat log"
  | .storage reason => s!"storage failure: {reason}"

/-- A chat message as it is kept. -/
structure ChatLogEntry where
  roomId : RoomId
  senderId : UserId
  senderName : DisplayName
  content : String
  timestamp : Instant
  deriving DecidableEq

/-- The entry of a message under a room, whichever room the message itself names. -/
def ChatLogEntry.ofMessage (m : Message) (room : RoomId) : ChatLogEntry where
  roomId := room
  senderId := m.senderId
  senderName := m.senderName
  content := m.content
  timestamp := m.timestamp

/-- A chat log that keeps a bounded number of entries for each room. -/
structure ChatLog where
  capacity : Nat
  entries : List (RoomId × List ChatLogEntry)

namespace ChatLog

/-- The number of entries kept for a room when nothing else is asked for. -/
def defaultCapacity : Nat := 1000

/-- An empty log; it keeps at least one entry for each room. -/
def withCapacity (capacity : Nat) : ChatLog :=
  ⟨max capacity 1, []⟩

/-- The entries of a room, oldest first. -/
def list (log : ChatLog) (room : RoomId) : List ChatLogEntry :=
  (log.entries.lookup room).getD []

/-- Puts `entries` in place of those of a room. -/
def replace (log : ChatLog) (room : RoomId) (entries : List ChatLogEntry) : ChatLog :=
  { log with entries := (room, entries) :: log.entries.filter (·.1 ≠ room) }

/-- Adds an entry at the end; a full log gives up its oldest entry first. -/
def push (capacity : Nat) (entries : List ChatLogEntry) (e : ChatLogEntry) : List ChatLogEntry :=
  (if entries.length = capacity then entries.drop 1 else entries) ++ [e]

/-- Keeps a chat message under a room. -/
def save (log : ChatLog) (m : Message) (room : RoomId) : Except ChatLogError ChatLog :=
  if m.isChat then
    .ok (log.replace room (push log.capacity (log.list room) (.ofMessage m room)))
  else .error (.unsupportedKind m.kind)

end ChatLog

/-- Where chat messages go: a log, or a store that fails with a reason. -/
inductive ChatStore where
  | log (entries : ChatLog)
  | failing (reason : String)

namespace ChatStore

/-- Keeps a chat message under a room. -/
def save (store : ChatStore) (m : Message) (room : RoomId) : Except ChatLogError ChatStore :=
  match store with
  | .log entries => (entries.save m room).map .log
  | .failing reason => .error (.storage reason)

/-- The entries of a room, oldest first. -/
def list (store : ChatStore) (room : RoomId) : Except ChatLogError (List ChatLogEntry) :=
  match store with
  | .log entries => .ok (entries.list room)
  | .failing reason => .error (.storage reason)

end ChatStore
end RoomHub
