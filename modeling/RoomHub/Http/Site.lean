import RoomHub.Http.Route
import RoomHub.Http.Upgrade
import RoomHub.Server.Basic

/-!
# Answering requests

`Server.answer` answers a request.  Who asks is found out first, from the bearer header if there is
one; a bad header is refused whatever the request is for.  A request that opens a socket changes
nothing by itself: the answer says who may enter which room.
-/

namespace RoomHub
namespace Http

open Text

/-- An answer, unless the request crashed, the server after it, and who enters which room over the
opened socket. -/
structure Outcome where
  response : Except Crash Response
  server : Server
  entering : Option (Identity × RoomId)

/-- An answer that opens no socket. -/
def plain (response : Response) (s : Server) : Outcome := ⟨.ok response, s, none⟩

/-- The caller's identity as the bearer header gives it. -/
def identify (s : Server) (r : Request) : Except AuthError (Option Identity) × Server :=
  match r.header? "authorization" with
  | none => (.ok none, s)
  | some value =>
    if isPlainValue value then
      match bearerToken value with
      | .error e => (.error e, s)
      | .ok token =>
        match s.verify token with
        | (.error e, s) => (.error e, s)
        | (.ok identity, s) => (.ok (some identity), s.report [.authenticated identity.userId])
    else (.error .invalidAuthHeader, s)

/-- The answer to a path whose room is no text. -/
def badPath : Response := .text 400 "Invalid URL: Invalid UTF-8 in `room_id`"

/-- The record of a member. -/
def memberRecord (m : RoomHub.Member) : Wire.Member :=
  ⟨m.id.text, m.userId.text, m.displayName.text⟩

/-- The record of a room. -/
def roomRecord (r : RoomSnapshot) : Wire.RoomSummary :=
  ⟨r.room.text, r.members.length, r.members.map memberRecord⟩

/-- The list of all rooms. -/
def answerRooms (s : Server) : Outcome :=
  let (rooms, s) := s.listRooms
  plain (.json 200 (Json.writeArray (rooms.map fun r => (roomRecord r).write))) s

/-- The chat log of a room, for anybody who is known. -/
def answerMessages (s : Server) (identity : Option Identity) (room : List Char) : Outcome :=
  match identity, Percent.text? room with
  | none, _ => plain (.ofAuthError .missingToken) s
  | some _, none => plain badPath s
  | some identity, some raw =>
    match RoomId.ofText raw with
    | .error _ => plain (.empty 400) s
    | .ok room =>
      match s.chatLog room with
      | .error why => plain (.empty 500) (s.report [.chatLogUnreadable room why])
      | .ok entries =>
        plain (.json 200 (Json.writeArray (entries.map fun e => (Wire.ChatLine.ofEntry e).write)))
          (s.report [.chatLogRead identity.userId entries.length room])

/-- The closing of a room, for administrators. -/
def answerClose (s : Server) (identity : Option Identity) (room : List Char) : Outcome :=
  match identity, Percent.text? room with
  | none, _ => plain (.ofAuthError .missingToken) s
  | some _, none => plain badPath s
  | some identity, some raw =>
    match RoomId.ofText raw with
    | .error why => plain (.ofCloseRoomError (.invalidRoomId why)) s
    | .ok room =>
      match s.closeRoom identity room with
      | (.error (.refused e), s) => plain (.ofCloseRoomError e) s
      | (.error (.crashed crash), s) => ⟨.error crash, s, none⟩
      | (.ok notified, s) => plain (.json 200 (Wire.Closure.write ⟨"Room Closed", notified⟩)) s

/-- The tokens in the query of a request. -/
def queryTokens (r : Request) : List String :=
  ((Percent.formPairs r.query).filter (·.1 = "token")).map (·.2)

/-- The opening of a socket, for anybody whom the header or the query makes known. -/
def answerCollaboration (s : Server) (identity : Option Identity) (room : List Char)
    (r : Request) : Outcome :=
  match handshakeKey r with
  | .error fault => plain fault.response s
  | .ok key =>
    match Percent.text? room, queryTokens r with
    | none, _ => plain badPath s
    | some _, _ :: _ :: _ =>
      plain (.text 400 "Failed to deserialize query string: duplicate field `token`") s
    | some raw, tokens =>
      match s.authenticate identity tokens.head? with
      | (.error e, s) => plain (.ofAdmissionError e) (s.report [.connectionRejected raw e])
      | (.ok identity, s) =>
        match admissionRoom raw with
        | .error e => plain (.ofAdmissionError e) s
        | .ok room => ⟨.ok (accepted key), s, some (identity, room)⟩

/-- The answer on a route that has the method of the request. -/
def answerRoute (s : Server) (identity : Option Identity) (r : Request) : Route → Outcome
  | .collaboration room => answerCollaboration s identity room r
  | .health => plain (.json 200 (Json.writeObject [("status", Json.writeText "ok")])) s
  | .rooms => answerRooms s
  | .messages room => answerMessages s identity room
  | .close room => answerClose s identity room

/-- The answer to a request that is more than a question for what is allowed. -/
def answerCaller (s : Server) (r : Request) : Outcome :=
  match identify s r with
  | (.error e, s) => plain (.ofAuthError e) s
  | (.ok identity, s) =>
    match r.route? with
    | none => plain (.empty 404) s
    | some route =>
      if route.methods.contains r.method then answerRoute s identity r route
      else plain (.empty 405) s

/-- The header that tells a request with a wrong method which methods there are. -/
def allowHeaders (r : Request) : Headers :=
  match r.route? with
  | some route =>
    if route.methods.contains r.method then [] else [("allow", ",".intercalate route.methods)]
  | none => []

/-- What every answer gets: the headers for other origins and for wrong methods, and no body if only
the head was asked for. -/
def finish (s : Server) (r : Request) (response : Response) : Response :=
  { response with
      headers :=
        response.headers ++ allowHeaders r ++ Cors.originHeaders s.settings.origins r ++ [Cors.vary]
      body := if r.method = "HEAD" then "" else response.body }

end Http

/-- The answer to a request. -/
def Server.answer (s : Server) (r : Http.Request) : Http.Outcome :=
  let outcome :=
    if r.method = "OPTIONS" then Http.plain Http.Cors.preflight s else Http.answerCaller s r
  { outcome with response := outcome.response.map (Http.finish s r) }

end RoomHub
