import RoomHub.Connection.Config
import RoomHub.Credentials
import RoomHub.Http.Cors
import RoomHub.Hub.Basic

/-!
# The server

The state shared by all requests and connections: the hubs of the rooms, the chat log, the clock and
the journal of notices.  Its operations are what requests and connections ask of it: `resolve` a
room's hub, `admitUser` a user, `relay` a client's message, `closeRoom`, `listRooms` and `chatLog`.
-/

namespace RoomHub

open Calendar

/-- What a server is started with. -/
structure Settings where
  config : ConnectionConfig := {}
  /-- The capacity asked for each hub's queue of events. -/
  intakeCapacity : Nat := ConnectionConfig.defaultIntakeCapacity
  secret : String
  /-- The origins whose pages may use the server. -/
  origins : List String := []

/-- What is reported about the origins that no header can hold. -/
def Settings.ignoredOrigins (settings : Settings) : List Notice :=
  (settings.origins.filter (!Http.isValue ·)).map .originIgnored

/-- The state of a server. -/
structure Server where
  settings : Settings
  /-- What the clock shows; nothing if that is no instant. -/
  clock : Option Instant
  /-- The second at which tokens are verified. -/
  now : Nat
  store : ChatStore
  hubs : List Hub
  /-- All notices so far, oldest first. -/
  journal : List Notice

/-- Something was asked for that cannot be had, such as a queue larger than a queue can be or the time
of a clock that shows none: the task that asked is lost. -/
structure Crash where

/-- Why an operation has no result. -/
inductive Failure (ε : Type) where
  | refused (why : ε)
  | crashed (why : Crash)

/-- A user who has been admitted to a room. -/
structure Participant where
  id : ConnectionId
  identity : Identity
  room : RoomId
  queue : QueueId

/-- A room and its members at one moment. -/
structure RoomSnapshot where
  room : RoomId
  members : List Member

namespace Server

/-- A server at its start.  Origins that no header can hold are reported and left out; the wildcard
is none that can be listed. -/
def start (settings : Settings) (store : ChatStore) (clock : Option Instant) (now : Nat) :
    Except Crash Server :=
  if settings.origins.contains Http.Cors.wildcard then .error {}
  else
    .ok
      { settings := { settings with origins := settings.origins.filter Http.isValue }
        clock := clock
        now := now
        store := store
        hubs := []
        journal := settings.ignoredOrigins }

/-- Adds notices to the journal. -/
def report (s : Server) (notices : List Notice) : Server :=
  { s with journal := s.journal ++ notices }

/-- The hub of a room, if it has one. -/
def hub? (s : Server) (room : RoomId) : Option Hub := s.hubs.find? (·.room = room)

/-- Rooms that have a hub, in ascending order. -/
def roomIds (s : Server) : List RoomId := RoomId.sorted (s.hubs.map (·.room))

/-- Puts a new state in place of the hub of the same room. -/
def putHub (s : Server) (hub : Hub) : Server :=
  { s with hubs := s.hubs.map fun h => if h.room = hub.room then hub else h }

/-- Whether a queue of this capacity can be made. -/
def canHold (capacity : Nat) : Bool := max capacity 1 ≤ ConnectionConfig.maxCapacity

/-- Makes sure that a room has a hub.  A room never has two, and none is ever given up. -/
def resolve (s : Server) (room : RoomId) : Except Crash Server :=
  match s.hub? room with
  | some _ => .ok s
  | none =>
    if canHold s.settings.intakeCapacity then
      .ok ({ s with hubs := s.hubs ++ [Hub.start room] }.report [.hubStarted room])
    else .error {}

/-- Stops the hub of a room. -/
def stopHub (s : Server) (room : RoomId) : Server :=
  match s.hub? room with
  | some hub => s.putHub hub.stop
  | none => s

/-- Has a room's hub handle an event; only a running hub does. -/
def send (s : Server) (room : RoomId) (event : Hub.Event) : Except HubClosed Unit × Server :=
  match s.hub? room with
  | none => (.error ⟨room⟩, s)
  | some hub =>
    if hub.running then
      let (hub, notices) := hub.handle .inOrder event
      (.ok (), (s.putHub hub).report notices)
    else (.error ⟨room⟩, s)

/-- Changes an outbox on behalf of its receiver. -/
def receive (s : Server) (room : RoomId) (event : Hub.Event) : Server :=
  match s.hub? room with
  | none => s
  | some hub => s.putHub (hub.handle .inOrder event).1

/-- What a participant's outbox has for its receiver. -/
def supply (s : Server) (room : RoomId) (queue : QueueId) : Option Supply :=
  match s.hub? room with
  | none => some .closed
  | some hub => hub.supply queue

/-- Removes a connection from a room; `linked` says whether its hub can still be reached.  A hub
that does not hear of it is reported. -/
def unregister (s : Server) (linked : Bool) (room : RoomId) (id : ConnectionId) : Server :=
  if linked then
    match s.send room (.unregister id) with
    | (.ok (), s) => s
    | (.error e, s) => s.report [.notUnregistered id e]
  else s

/-- Registers a connection with a room's hub; its fresh outbox. -/
def register (s : Server) (room : RoomId) (id : ConnectionId) (user : Identity) (capacity : Nat) :
    Except (Failure HubClosed) QueueId × Server :=
  if canHold capacity then
    match s.hub? room with
    | none => (.error (.refused ⟨room⟩), s)
    | some hub =>
      match s.send room (.register id user capacity) with
      | (.ok (), s) => (.ok (hub.nextQueue id), s)
      | (.error e, s) => (.error (.refused e), s)
  else (.error (.crashed {}), s)

/-- Admits a user to a room as the connection `id`: the members are told first, then the connection
becomes one of them, so it does not hear of its own coming. -/
def admitUser (s : Server) (id : ConnectionId) (user : Identity) (room : RoomId) :
    Except (Failure AdmissionError) Participant × Server :=
  match s.resolve room with
  | .error crash => (.error (.crashed crash), s)
  | .ok s =>
    match s.clock, canHold s.settings.config.queueCapacity with
    | some time, true =>
      match s.send room (.broadcast (.joined user room time)) with
      | (.error e, s) => (.error (.refused (.hubUnavailable e)), s)
      | (.ok (), s) =>
        match s.register room id user s.settings.config.queueCapacity with
        | (.error (.refused e), s) => (.error (.refused (.hubUnavailable e)), s)
        | (.error (.crashed c), s) => (.error (.crashed c), s)
        | (.ok queue, s) => (.ok ⟨id, user, room, queue⟩, s.report [.admitted user.userId room id])
    | _, _ => (.error (.crashed {}), s)

/-- Keeps a chat message; a failure is reported and nothing else. -/
def persist (s : Server) (m : Message) : Server :=
  match s.store.save m m.roomId with
  | .ok store => { s with store := store }
  | .error why => s.report [.chatNotSaved m.senderId m.roomId why]

/-- Stamps a client's message, keeps it if it is a chat message and hands it to the room's hub. -/
def relay (s : Server) (room : RoomId) (sender : Identity) (kind : MessageKind) (content : String) :
    Except (Failure RelayError) Message × Server :=
  if kind = .roomClosed then (.error (.refused (.reservedKind kind)), s)
  else
    match s.clock with
    | none => (.error (.crashed {}), s)
    | some time =>
      let m := Message.ofClient kind content sender room time
      let s := if m.isChat then s.persist m else s
      match s.send room (.broadcast m) with
      | (.ok (), s) => (.ok m, s)
      | (.error e, s) => (.error (.refused (.hubUnavailable e)), s)

/-- Tells the members of a room that it is closed; whether there was a hub to tell it. -/
def closeRoom (s : Server) (user : Identity) (room : RoomId) :
    Except (Failure CloseRoomError) Bool × Server :=
  if !user.isAdmin then (.error (.refused .forbidden), s)
  else
    match s.hub? room, s.clock with
    | none, _ => (.ok false, s.report [.nothingToClose room])
    | some _, none => (.error (.crashed {}), s)
    | some _, some time =>
      match s.send room (.broadcast (.roomClosed user.userId room time)) with
      | (.error e, s) => (.error (.refused (.hubUnavailable e)), s)
      | (.ok (), s) => (.ok true, s.report [.roomClosed room user.userId])

/-- Members by user id, then by name, then by connection. -/
def memberBefore (a b : Member) : Bool :=
  if a.userId.text = b.userId.text then
    if a.displayName.text = b.displayName.text then a.id.text ≤ b.id.text
    else a.displayName.text ≤ b.displayName.text
  else a.userId.text ≤ b.userId.text

/-- The members of a running hub, in order. -/
def members (s : Server) (room : RoomId) : Except HubClosed (List Member) :=
  match s.hub? room with
  | some hub => if hub.running then .ok (hub.members.mergeSort memberBefore) else .error ⟨room⟩
  | none => .error ⟨room⟩

/-- The snapshot of a room, or the notice that it has none. -/
def snapshot (s : Server) (room : RoomId) : List RoomSnapshot × List Notice :=
  match s.members room with
  | .ok members => ([⟨room, members⟩], [])
  | .error e => ([], [.roomSkipped room e])

/-- All rooms whose hub runs, in ascending order, with their members. -/
def listRooms (s : Server) : List RoomSnapshot × Server :=
  let snapshots := s.roomIds.map s.snapshot
  (snapshots.flatMap (·.1), s.report (snapshots.flatMap (·.2)))

/-- The chat log of a room, oldest entry first. -/
def chatLog (s : Server) (room : RoomId) : Except ChatLogError (List ChatLogEntry) :=
  s.store.list room

/-- The identity of a token; a token that is not accepted is reported. -/
def verify (s : Server) (token : String) : Except AuthError Identity × Server :=
  match Token.verifyClaims s.settings.secret s.now token with
  | .error fault => (.error fault.toAuthError, s.report [.tokenRejected fault])
  | .ok claims => (claims.identity, s)

/-- The identity of somebody who wants to enter.  An identity that is already known goes before a
presented token. -/
def authenticate (s : Server) (known : Option Identity) (token : Option String) :
    Except AdmissionError Identity × Server :=
  match known with
  | some identity => (.ok identity, s)
  | none =>
    match presentedToken token with
    | .error e => (.error (.unauthorized e), s)
    | .ok token =>
      let (result, s) := s.verify token
      (result.mapError .unauthorized, s)

end Server
end RoomHub
