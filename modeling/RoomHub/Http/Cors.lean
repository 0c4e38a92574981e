import RoomHub.Http.Request
import RoomHub.Http.Response

/-!
# Requests from other origins

Pages of the allowed origins may use the server.  Every answer says on which headers it depends, and
names the origin of the request if that is allowed.  A request with the method `OPTIONS` only asks
what is allowed.
-/

namespace RoomHub.Http.Cors

/-- The origin that would allow all; it cannot be listed. -/
def wildcard : String := "*"

/-- The request headers that answers depend on. -/
def vary : String × String :=
  ("vary", "origin, access-control-request-method, access-control-request-headers")

/-- The header that names the allowed origin of a request. -/
def originHeaders (allowed : List String) (r : Request) : Headers :=
  match r.header? "origin" with
  | some origin =>
    if allowed.contains origin then [("access-control-allow-origin", origin)] else []
  | none => []

/-- The answer to a question for what is allowed. -/
def preflight : Response :=
  { Response.empty 200 with
      headers :=
        [("access-control-allow-methods", "GET,POST,PUT,DELETE,OPTIONS"),
          ("access-control-allow-headers", "content-type,authorization")] }

end RoomHub.Http.Cors
