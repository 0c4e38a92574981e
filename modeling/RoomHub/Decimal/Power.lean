/-!
# Powers

The powers of the two bases that numbers are kept and written in.
-/

namespace RoomHub.Decimal

/-- A power of two. -/
def twoTo (n : Nat) : Nat := Nat.pow 2 n

/-- A power of ten. -/
def tenTo (n : Nat) : Nat := Nat.pow 10 n

end RoomHub.Decimal
