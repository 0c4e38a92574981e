import RoomHub.Proofs.Credentials
import RoomHub.Server.Basic

/-!
# Two rooms with two users

Values for the places where a law is applied to one case.
-/

namespace RoomHub.Sample

open Calendar

/-- A room. -/
def studio : RoomId := ⟨"studio", by decide, by decide, by decide⟩

/-- Another room. -/
def cellar : RoomId := ⟨"cellar", by decide, by decide, by decide⟩

/-- A member. -/
def ann : Identity := ⟨⟨"ann", by decide⟩, ⟨"Ann", by decide⟩, .member⟩

/-- An administrator. -/
def root : Identity := ⟨⟨"root", by decide⟩, ⟨"Root", by decide⟩, .admin⟩

/-- A connection of `ann`. -/
def annId : ConnectionId := ⟨1, "c1"⟩

/-- A connection of `root`. -/
def rootId : ConnectionId := ⟨2, "c2"⟩

/-- What `ann` says in the studio. -/
def saying (content : String) : Message where
  kind := .chat
  senderId := ann.userId
  senderName := ann.displayName
  content := content
  timestamp := .epoch
  roomId := studio

/-- The settings of a server. -/
def settings : Settings := { secret := "the secret of the tests" }

/-- A token of Ann's, good for the first minute. -/
def annToken : String :=
  "eyJ0eXAiOiJKV1QiLCJhbGciOiJIUzI1NiJ9" ++
    ".eyJ1c2VyX2lkIjoiYW5uIiwidXNlcm5hbWUiOiJBbm4iLCJleHAiOjYwfQ" ++
    ".zJlmGkyUz2Rcc-h1YNBF_5iuDNNEZc0tiEOOWhnxYik"

/-- A server that has just started. -/
def server : Server := ⟨settings, none, 0, .log (.withCapacity 1), [], []⟩

theorem presentable_annToken : Presentable annToken := by decide +kernel

/-- At the beginning, Ann's token is verified. -/
theorem verify_annToken : Token.verify settings.secret 0 annToken = .ok ann := by
  have read : (Token.verify settings.secret 0 annToken).toOption = some ann := by decide +kernel
  generalize Token.verify settings.secret 0 annToken = result at read ⊢
  cases result with
  | error why => cases read
  | ok user => exact congrArg Except.ok (Option.some.inj read)

/-- A server whose store fails. -/
def failing : Server := { server with store := .failing "disk full" }

end RoomHub.Sample
