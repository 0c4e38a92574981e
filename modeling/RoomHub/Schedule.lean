/-!
# Schedules

Moves with the times from which they are possible.
-/

namespace RoomHub

/-- A move that may become possible, with its time. -/
def timed {α : Type} (move : α) (time : Option Nat) : List (Nat × α) :=
  (time.map ((·, move))).toList

/-- The earliest of several moves; of moves at the same time the one that is listed first. -/
def earliest {α : Type} : List (Nat × α) → Option (Nat × α)
  | [] => none
  | x :: xs =>
    match earliest xs with
    | some y => if y.1 < x.1 then some y else some x
    | none => some x

end RoomHub
