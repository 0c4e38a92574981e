import RoomHub.Text.Blank

/-!
# Rooms, users and identities

`RoomId`, `UserId` and `DisplayName` are texts that have passed their rule; each type carries the
rule as a proof.  `RoomId.ofText` trims, so two room ids are the same room exactly if their stored
texts agree.  An `Identity` is a verified user.
-/

namespace RoomHub

open Text

/-- Why a text is not an identifier. -/
inductive IdentifierError where
  | emptyRoomId
  | roomIdTooLong (length : Nat)
  | emptyUserId
  | emptyDisplayName
  deriving DecidableEq, Repr

/-- The greatest number of code points in a room id. -/
def RoomId.maxLength : Nat := 128

/-- The wording of an identifier error. -/
def IdentifierError.message : IdentifierError → String
  | .emptyRoomId => "room id must not be empty"
  | .roomIdTooLong n => s!"room id is too long ({n} > {RoomId.maxLength} chars)"
  | .emptyUserId => "user id must not be empty"
  | .emptyDisplayName => "display name must not be empty"

/-- The identifier of a room: a trimmed text of 1 to 128 code points. -/
structure RoomId where
  text : String
  trimmed : trim text = text
  nonempty : text ≠ ""
  short : text.length ≤ RoomId.maxLength
  deriving DecidableEq

namespace RoomId

/-- The room id that a text denotes, without the blanks around it. -/
def ofText (s : String) : Except IdentifierError RoomId :=
  if h : trim s = "" then .error .emptyRoomId
  else if k : (trim s).length ≤ maxLength then .ok ⟨trim s, trim_trim s, h, k⟩
  else .error (.roomIdTooLong (trim s).length)

instance : ToString RoomId := ⟨RoomId.text⟩

/-- Room ids are ordered as their texts, code point by code point. -/
instance : LT RoomId := ⟨fun a b => a.text < b.text⟩

instance (a b : RoomId) : Decidable (a < b) := inferInstanceAs (Decidable (a.text < b.text))

/-- Puts a room into an ascending list, once. -/
def insertSorted (r : RoomId) : List RoomId → List RoomId
  | [] => [r]
  | s :: rooms =>
    if r < s then r :: s :: rooms else if r = s then s :: rooms else s :: insertSorted r rooms

/-- The rooms in ascending order, each once. -/
def sorted (rooms : List RoomId) : List RoomId :=
  rooms.foldr insertSorted []

end RoomId

/-- The identifier of a user: any text that is not blank. -/
structure UserId where
  text : String
  visible : isBlankText text = false
  deriving DecidableEq

/-- The user id that a text denotes, kept as it is. -/
def UserId.ofText (s : String) : Except IdentifierError UserId :=
  if h : isBlankText s = false then .ok ⟨s, h⟩ else .error .emptyUserId

instance : ToString UserId := ⟨UserId.text⟩

/-- The name shown beside messages: any text that is not blank. -/
structure DisplayName where
  text : String
  visible : isBlankText text = false
  deriving DecidableEq

namespace DisplayName

/-- The display name that a text denotes, kept as it is. -/
def ofText (s : String) : Except IdentifierError DisplayName :=
  if h : isBlankText s = false then .ok ⟨s, h⟩ else .error .emptyDisplayName

/-- A user id can be shown as a name. -/
def ofUserId (u : UserId) : DisplayName := ⟨u.text, u.visible⟩

/-- The name of messages that the server sends of its own accord. -/
def system : DisplayName := ⟨"System", by decide⟩

instance : ToString DisplayName := ⟨DisplayName.text⟩

end DisplayName

/-- What a user may do. -/
inductive Role where
  | admin
  | member
  deriving DecidableEq, Repr, Inhabited

/-- The role's name in tokens and answers. -/
def Role.name : Role → String
  | .admin => "admin"
  | .member => "member"

/-- A verified user. -/
structure Identity where
  userId : UserId
  displayName : DisplayName
  role : Role
  deriving DecidableEq

/-- Administrators may close rooms. -/
def Identity.isAdmin (i : Identity) : Bool :=
  i.role = .admin

end RoomHub
