import RoomHub.Http.Header
import RoomHub.Refusal
import RoomHub.Wire.Http

/-!
# HTTP answers

An answer has a status, headers and a body.  Refusals become answers with a JSON body that holds
their wording and a code; statuses and codes are given here for every kind of refusal.
-/

namespace RoomHub.Http

/-- An answer to a request. -/
structure Response where
  status : Nat
  headers : Headers
  body : String
  deriving DecidableEq, Repr

namespace Response

/-- An answer without a body. -/
def empty (status : Nat) : Response := ⟨status, [], ""⟩

/-- An answer with a JSON body. -/
def json (status : Nat) (body : List Char) : Response :=
  ⟨status, [("content-type", "application/json")], String.ofList body⟩

/-- An answer with a text body. -/
def text (status : Nat) (body : String) : Response :=
  ⟨status, [("content-type", "text/plain; charset=utf-8")], body⟩

/-- An answer that tells why a request is refused. -/
def refusal (statusAndCode : Nat × String) (message : String) : Response :=
  json statusAndCode.1 (Wire.Failure.write ⟨message, statusAndCode.2⟩)

/-- The status and code of an authentication error. -/
def authCode : AuthError → Nat × String
  | .missingToken => (401, "missing_token")
  | .invalidAuthHeader => (401, "invalid_auth_header")
  | .invalidToken _ => (401, "invalid_token")
  | .tokenExpired => (401, "token_expired")
  | .invalidClaims _ => (401, "invalid_claims")
  | .internal _ => (500, "internal_error")

/-- The answer to a user who is not known. -/
def ofAuthError (e : AuthError) : Response :=
  refusal (authCode e) e.message

/-- The answer to a user who is not admitted. -/
def ofAdmissionError (e : AdmissionError) : Response :=
  let code :=
    match e with
    | .unauthorized why => authCode why
    | .invalidRoomId _ => (400, "invalid_room_id")
    | .hubUnavailable _ => (503, "hub_unavailable")
  refusal code e.message

/-- The answer to a refused closing request. -/
def ofCloseRoomError (e : CloseRoomError) : Response :=
  let code :=
    match e with
    | .forbidden => (403, "forbidden")
    | .invalidRoomId _ => (400, "invalid_room_id")
    | .hubUnavailable _ => (503, "hub_unavailable")
  refusal code e.message

end Response
end RoomHub.Http
