import RoomHub.Http.Request

/-!
# Routes

What the path of a request names.  Paths are compared as they are written, before any decoding; the
last part of a path is never empty.
-/

namespace RoomHub.Http

open Text

/-- What a path names; rooms are given as they are written in the path. -/
inductive Route where
  /-- Entering a room. -/
  | collaboration (room : List Char)
  | health
  | rooms
  | messages (room : List Char)
  | close (room : List Char)
  deriving DecidableEq, Repr

namespace Route

/-- The route of a path. -/
def ofPath? (path : List Char) : Option Route :=
  match (pieces '/' path).map String.ofList with
  | ["", "collaboration", room] => if room = "" then none else some (.collaboration room.toList)
  | ["", "api", "health"] => some .health
  | ["", "api", "rooms"] => some .rooms
  | ["", "api", "rooms", room, "messages"] => some (.messages room.toList)
  | ["", "api", "rooms", room, "close"] => some (.close room.toList)
  | _ => none

/-- The methods of a route. -/
def methods : Route → List String
  | .close _ => ["POST"]
  | _ => ["GET", "HEAD"]

end Route

/-- The route of a request. -/
def Request.route? (r : Request) : Option Route := Route.ofPath? r.path

end RoomHub.Http
