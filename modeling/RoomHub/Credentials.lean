import RoomHub.Refusal
import RoomHub.Text.Ascii
import RoomHub.Text.Blank

/-!
# Credentials

How a request presents a token: in a bearer header, whose grammar `bearerToken` reads, or by itself.
-/

namespace RoomHub

open Text

/-- The token of a bearer header: the word `bearer` in any case, blanks and one more word. -/
def bearerToken (header : String) : Except AuthError String :=
  match words header with
  | [scheme, token] => if sameAscii scheme "bearer" then .ok token else .error .invalidAuthHeader
  | _ => .error .invalidAuthHeader

/-- The token that comes by itself; blanks around it do not count, and a blank one is none. -/
def presentedToken (token : Option String) : Except AuthError String :=
  match token.map trim with
  | none | some "" => .error .missingToken
  | some t => .ok t

end RoomHub
