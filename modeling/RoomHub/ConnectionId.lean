import RoomHub.Text.Digits

/-!
# Connection ids

Every connection of a room has an identifier of its own, since one user may hold several.  A serial
number tells the connections of a server apart; what is shown of them is a random UUID of version 4.
-/

namespace RoomHub

/-- The identifier of a connection. -/
structure ConnectionId where
  serial : Nat
  /-- The identifier as it is shown. -/
  text : String
  deriving DecidableEq, Repr

instance : ToString ConnectionId := ⟨ConnectionId.text⟩

namespace ConnectionId

/-- Puts the version, 4, into the seventh byte and the variant into the ninth. -/
def markVersion (index : Nat) (b : UInt8) : UInt8 :=
  if index = 6 then (b &&& 0x0f) ||| 0x40
  else if index = 8 then (b &&& 0x3f) ||| 0x80
  else b

/-- The identifier made of sixteen random bytes: it is shown as hexadecimal digits in groups of 8, 4,
4, 4 and 12. -/
def ofRandom (serial : Nat) (bytes : List UInt8) : ConnectionId :=
  let digits := (Text.hexBytes (bytes.mapIdx markVersion)).toList
  let group (start size : Nat) : String := String.ofList ((digits.drop start).take size)
  ⟨serial, "-".intercalate [group 0 8, group 8 4, group 12 4, group 16 4, group 20 12]⟩

end ConnectionId
end RoomHub
