import RoomHub.Message

/-!
# Refusals

Why a request is refused, one type for each kind of request, and the wording of each.
-/

namespace RoomHub

/-- Why a user is not known. -/
inductive AuthError where
  | missingToken
  | invalidAuthHeader
  | invalidToken (reason : String)
  | tokenExpired
  | invalidClaims (reason : String)
  | internal (reason : String)
  deriving DecidableEq, Repr

/-- The wording of an authentication error. -/
def AuthError.message : AuthError → String
  | .missingToken => "missing token"
  | .invalidAuthHeader => "invalid authorization header format"
  | .invalidToken reason => s!"invalid token: {reason}"
  | .tokenExpired => "token expired"
  | .invalidClaims reason => s!"invalid token claims: {reason}"
  | .internal reason => s!"internal auth error: {reason}"

/-- The hub of this room has stopped. -/
structure HubClosed where
  room : RoomId
  deriving DecidableEq

/-- The wording of a stopped hub. -/
def HubClosed.message (e : HubClosed) : String :=
  s!"hub for room '{e.room}' is not running"

/-- Why a user is not admitted to a room. -/
inductive AdmissionError where
  | unauthorized (why : AuthError)
  | invalidRoomId (why : IdentifierError)
  | hubUnavailable (why : HubClosed)
  deriving DecidableEq

/-- The wording of an admission error. -/
def AdmissionError.message : AdmissionError → String
  | .unauthorized why => s!"unauthorized: {why.message}"
  | .invalidRoomId why => s!"invalid room id: {why.message}"
  | .hubUnavailable why => why.message

/-- Why a client's message is not relayed. -/
inductive RelayError where
  | reservedKind (kind : MessageKind)
  | hubUnavailable (why : HubClosed)
  deriving DecidableEq

/-- The wording of a relay error. -/
def RelayError.message : RelayError → String
  | .reservedKind kind => s!"clients may not send '{kind}' messages"
  | .hubUnavailable why => why.message

/-- Why a room is not closed. -/
inductive CloseRoomError where
  | forbidden
  | invalidRoomId (why : IdentifierError)
  | hubUnavailable (why : HubClosed)
  deriving DecidableEq

/-- The wording of a closing error. -/
def CloseRoomError.message : CloseRoomError → String
  | .forbidden => "only administrators can close rooms"
  | .invalidRoomId why => s!"invalid room id: {why.message}"
  | .hubUnavailable why => why.message

/-- The room id that a text denotes, for admission. -/
def admissionRoom (raw : String) : Except AdmissionError RoomId :=
  (RoomId.ofText raw).mapError .invalidRoomId

end RoomHub
