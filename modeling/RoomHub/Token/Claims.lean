import RoomHub.Json.Record
import RoomHub.Json.Writer
import RoomHub.Refusal
import RoomHub.Text.Ascii

/-!
# Claims

What a token says of a user, and the identity that follows from it: `Claims.identity`.
-/

namespace RoomHub

open Json Text

/-- The claims of a token; `exp` is its last second, counted from 1970. -/
structure Claims where
  userId : String
  username : Option String
  role : Option String
  exp : Int
  deriving DecidableEq, Repr

namespace Claims

/-- The record as JSON; absent members are left out. -/
def write (c : Claims) : List Char :=
  writeObject ([("user_id", writeText c.userId)] ++
    optionalMember "username" (c.username.map writeText) ++
    optionalMember "role" (c.role.map writeText) ++ [("exp", writeInteger c.exp)])

/-- The fields read so far. -/
structure Fields where
  userId : Option String := none
  username : Option (Option String) := none
  role : Option (Option String) := none
  exp : Option Int := none

/-- The user id and the last second are required. -/
def record : Record Fields Claims where
  name := "Claims"
  fields :=
    [.of "user_id" false (·.userId) (fun s x => { s with userId := some x }) readString,
      .of "username" true (·.username) (fun s x => { s with username := some x })
        (readOptional readString),
      .of "role" true (·.role) (fun s x => { s with role := some x }) (readOptional readString),
      .of "exp" false (·.exp) (fun s x => { s with exp := some x }) readSigned64]
  empty := {}
  finish s := do
    let userId ← required "user_id" s.userId
    let exp ← required "exp" s.exp
    return ⟨userId, s.username.join, s.role.join, exp⟩

/-- The role that a role claim stands for. -/
def roleOf : Option String → Role
  | some r => if sameAscii r "admin" then .admin else .member
  | none => .member

/-- The identity that the claims describe.  A user without a visible name goes by the user id. -/
def identity (c : Claims) : Except AuthError Identity :=
  match UserId.ofText c.userId with
  | .error e => .error (.invalidClaims e.message)
  | .ok user =>
    let name := (c.username.bind fun n => (DisplayName.ofText n).toOption).getD (.ofUserId user)
    .ok ⟨user, name, roleOf c.role⟩

/-- The claims that describe an identity. -/
def ofIdentity (i : Identity) (exp : Int) : Claims where
  userId := i.userId.text
  username := some i.displayName.text
  role := if i.isAdmin then some Role.admin.name else none
  exp := exp

end Claims
end RoomHub
