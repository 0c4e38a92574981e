import RoomHub.Connection.Transport
import RoomHub.Http.Head
import RoomHub.Http.Site
import RoomHub.World

/-!
# What peers do

Requests to a server, by themselves or over a connection that may become a socket, and what the
peer of an open socket does.
-/

namespace RoomHub

open Http

/-- A frame comes from the peer. -/
def Connection.hear (c : Connection) (now : Nat) (f : Frame) : Connection :=
  let arrival := Transport.received c.config.maxMessageSize f
  { c with
      inbox := c.inbox ++ [(now, arrival)]
      peerGone := c.peerGone || Transport.silences arrival }

/-- The peer is gone without a word.  A writer that was left alone finds out by itself. -/
def Connection.lose (c : Connection) (now : Nat) : Connection :=
  { c with
      inbox := c.inbox ++ [(now, Transport.broken)]
      peerGone := true
      sink := if c.crashed then Sink.broken else c.sink }

namespace World

/-- The connection with an identifier. -/
def connection? (w : World) (id : ConnectionId) : Option Connection :=
  w.connections.find? (·.participant.id = id)

/-- Changes the connection with an identifier. -/
def modify (w : World) (id : ConnectionId) (f : Connection → Connection) : World :=
  { w with connections := w.connections.map fun c => if c.participant.id = id then f c else c }

/-- Lets somebody enter a room over an opened socket, as the connection `id`. -/
def enter (w : World) (id : ConnectionId) (identity : Identity) (room : RoomId) : World :=
  match w.server.admitUser id identity room with
  | (.ok participant, s) =>
    let c := Connection.start participant s.settings.config w.now
    { w with server := s }.serve { c with answersPings := true }
  | (.error (.refused why), s) => { w with server := s.report [.upgradeNotAdmitted why] }
  | (.error (.crashed _), s) => { w with server := s }

/-- The answer to a request; a socket that it opens becomes the connection `id`. -/
def answer (w : World) (id : ConnectionId) (r : Request) : Except Crash Response × World :=
  let outcome := w.server.answer r
  let w := { w with server := outcome.server }
  match outcome.entering with
  | some (identity, room) => (outcome.response, w.enter id identity room)
  | none => (outcome.response, w)

/-- The answer to the head of a request that comes over a connection.  It says so if the connection
ends with it. -/
def answerOnWire (w : World) (id : ConnectionId) (head : List Char) : Except Crash Response × World :=
  match Request.ofHead head with
  | .error fault => (.ok fault.response, w)
  | .ok r =>
    let (response, w) := w.answer id r
    (response.map fun x => if r.keepsConnection then x else x.closing, w)

/-- The peer of a socket sends a frame. -/
def receive (w : World) (id : ConnectionId) (f : Frame) : World :=
  w.modify id (·.hear w.now f)

/-- The peer of a socket is gone without a word. -/
def hangUp (w : World) (id : ConnectionId) : World :=
  w.modify id (·.lose w.now)

end World
end RoomHub
