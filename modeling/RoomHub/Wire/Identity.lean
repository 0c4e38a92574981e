import RoomHub.Identity
import RoomHub.Json.Record

/-!
# Identifiers in JSON

Identifiers are texts that must satisfy their rule; a role is one of two names.
-/

namespace RoomHub.Wire

open Json

/-- Reads a text and takes it as an identifier.  A refusal belongs to the whole text and has no
place in it. -/
def readIdentifier {α : Type} (of : String → Except IdentifierError α) : Reader α := fun bytes =>
  match readString bytes with
  | .error f => .error f
  | .ok (s, rest) =>
    match of s with
    | .ok a => .ok (a, rest)
    | .error e => .error (.unplaced (.refused e.message) rest)

/-- The roles under their names. -/
def roles : List (String × Role) := [Role.admin, .member].map fun r => (r.name, r)

/-- Reads a role. -/
def readRole : Reader Role := readChoice roles

end RoomHub.Wire
