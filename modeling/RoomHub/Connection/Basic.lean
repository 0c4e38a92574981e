import RoomHub.Connection.ReadPump
import RoomHub.Connection.WritePump

/-!
# Connections

A participant bound to a peer.  Reader and writer work side by side.  Whichever ends first, the
participant is unregistered, so that its outbox is given up and the writer ends too; the connection
is over when the writer has ended.  A reader that crashes takes all of this with it: the writer is
left alone and the participant stays.  `Connection.read`, `Connection.write` and `Connection.conclude`
are the moves of a connection, each on the connection and the server together.
-/

namespace RoomHub

/-- A participant bound to a peer. -/
structure Connection where
  participant : Participant
  config : ConnectionConfig
  sink : Sink
  /-- Whether the hub of the room can still be reached. -/
  linked : Bool
  /-- Whether the transport answers a ping by itself. -/
  answersPings : Bool
  /-- Whether the peer is gone: what is written to it is lost. -/
  peerGone : Bool
  /-- The frames that the peer sends, each with the time at which it arrives. -/
  inbox : List (Nat × Arrival)
  /-- What follows the frames of the inbox. -/
  tail : ReadPump.Tail
  deadline : Nat
  /-- Whether the reader still works. -/
  reading : Bool
  /-- Whether the reader has crashed. -/
  crashed : Bool
  writer : WritePump
  /-- What was written to the peer, and when. -/
  sent : List (Nat × Frame)
  /-- When the connection ended. -/
  endedAt : Option Nat

namespace Connection

/-- A connection that begins at the time `now`. -/
def start (participant : Participant) (config : ConnectionConfig) (now : Nat) : Connection where
  participant := participant
  config := config
  sink := Sink.instant
  linked := true
  answersPings := false
  peerGone := false
  inbox := []
  tail := .silent
  deadline := now + config.pongWait
  reading := true
  crashed := false
  writer := WritePump.start config now
  sent := []
  endedAt := none

/-- Removes the participant from its room. -/
def unregister (c : Connection) (s : Server) : Server :=
  s.unregister c.linked c.participant.room c.participant.id

/-- Gives up the outbox of a writer that has ended. -/
def release (c : Connection) (s : Server) : Server :=
  if c.writer.exit.isSome then
    s.receive c.participant.room (.dropReceiver c.participant.queue)
  else s

/-- Records what reaches the peer. -/
def send (c : Connection) (time : Nat) (frames : List Frame) : Connection :=
  if c.peerGone then c else { c with sent := c.sent ++ frames.map ((time, ·)) }

/-- Ends the reader. -/
def stopReading (c : Connection) (s : Server) (why : ReadEnd) : Connection × Server :=
  let s := s.report [.readStopped c.participant.id c.participant.room why]
  ({ c with reading := false }, c.unregister s)

/-- What the transport answers to an arrival by itself. -/
def reply (c : Connection) : Arrival → List Frame
  | .frame (.ping payload) => if c.answersPings then [.pong payload] else []
  | _ => []

/-- The reader goes on: it takes the next arrival, or ends because none comes. -/
def read (c : Connection) (time : Nat) (s : Server) : Connection × Server :=
  match c.inbox with
  | [] =>
    match c.tail with
    | .ends => c.stopReading s .peerClosed
    | .silent => c.stopReading s .deadlineExceeded
  | (arrives, arrival) :: rest =>
    if c.deadline < arrives then c.stopReading s .deadlineExceeded
    else
      let c := { c with inbox := rest }.send time (c.reply arrival)
      match ReadPump.take c.config (!c.linked) c.participant.room c.participant.identity time
          c.deadline s arrival with
      | (some (.ended why), _, s) => c.stopReading s why
      | (some .crashed, _, s) => ({ c with reading := false, crashed := true }, s)
      | (none, deadline, s) => ({ c with deadline := deadline }, s)

/-- The messages that wait in the outbox. -/
def waiting (c : Connection) (s : Server) : List Message :=
  ((s.hub? c.participant.room).map (·.pending c.participant.queue)).getD []

/-- What the outbox has for the writer. -/
def supply (c : Connection) (s : Server) : Option Supply :=
  s.supply c.participant.room c.participant.queue

/-- The writer makes a move. -/
def write (c : Connection) (task : WritePump.Task) (time : Nat) (s : Server) :
    Connection × Server :=
  let supply := c.supply s
  let (writer, frame) := c.writer.perform c.config c.sink time supply task
  let c := { c with writer := writer }.send time frame.toList
  let s :=
    match task, supply with
    | .queue, some (.message _) => s.receive c.participant.room (.take c.participant.queue)
    | _, _ => s
  (c, c.release s)

/-- The notice of a writer that has ended. -/
def writerNotice (c : Connection) : WriterExit → Notice
  | .ended why => .writeStopped c.participant.id c.participant.room why
  | .crashed => .writerCrashed c.participant.id

/-- Ends the connection once its writer has ended; nobody is there to report a writer that was left
alone. -/
def conclude (c : Connection) (time : Nat) (s : Server) : Connection × Server :=
  let s := if c.reading then c.unregister s else s
  let s := if c.crashed then s else s.report (c.writer.exit.map c.writerNotice).toList
  ({ c with reading := false, endedAt := some time }, s)

/-! ### When moves are possible -/

/-- When the reader goes on. -/
def readsAt (c : Connection) (now : Nat) : Option Nat :=
  if c.reading then some (max now (ReadPump.wakesAt c.tail c.deadline c.inbox)) else none

/-- When the writer can make a move. -/
def writesAt (c : Connection) (now : Nat) (s : Server) (task : WritePump.Task) : Option Nat :=
  c.writer.readyAt now ((c.supply s).map fun _ => now) task

/-- When the connection can end. -/
def concludesAt (c : Connection) (now : Nat) : Option Nat :=
  if c.writer.exit.isSome && c.endedAt.isNone then some now else none

end Connection
end RoomHub
