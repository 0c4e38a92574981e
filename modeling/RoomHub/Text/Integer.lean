import RoomHub.Decimal.Power

/-!
# Integers in text

Decimal integers of 64 bits.  A sign may come first, a minus sign only where negative numbers are
read.  The first fault from the left counts.
-/

namespace RoomHub.Text

/-- Why a text is no integer. -/
inductive IntegerFault where
  | empty
  | digit
  | tooLarge
  | tooSmall
  deriving DecidableEq, Repr

/-- The wording of a fault. -/
def IntegerFault.message : IntegerFault → String
  | .empty => "cannot parse integer from empty string"
  | .digit => "invalid digit found in string"
  | .tooLarge => "number too large to fit in target type"
  | .tooSmall => "number too small to fit in target type"

/-- Reads digits after the number `n`; a number above `limit` is the fault `beyond`. -/
def readDigits (limit : Nat) (beyond : IntegerFault) : Nat → List Char → Except IntegerFault Nat
  | n, [] => .ok n
  | n, c :: cs =>
    if c.isDigit then
      let n := 10 * n + (c.toNat - 0x30)
      if limit < n then .error beyond else readDigits limit beyond n cs
    else .error .digit

/-- Reads at least one digit. -/
def readNumber (limit : Nat) (beyond : IntegerFault) (cs : List Char) : Except IntegerFault Nat :=
  if cs.isEmpty then .error .digit else readDigits limit beyond 0 cs

/-- Reads an unsigned integer of 64 bits. -/
def readUnsigned (s : String) : Except IntegerFault Nat :=
  match s.toList with
  | [] => .error .empty
  | '+' :: cs => readNumber (Decimal.twoTo 64 - 1) .tooLarge cs
  | cs => readNumber (Decimal.twoTo 64 - 1) .tooLarge cs

/-- Reads a signed integer of 64 bits. -/
def readSigned (s : String) : Except IntegerFault Int :=
  match s.toList with
  | [] => .error .empty
  | '+' :: cs => (readNumber (Decimal.twoTo 63 - 1) .tooLarge cs).map Int.ofNat
  | '-' :: cs => (readNumber (Decimal.twoTo 63) .tooSmall cs).map fun n => -(n : Int)
  | cs => (readNumber (Decimal.twoTo 63 - 1) .tooLarge cs).map Int.ofNat

end RoomHub.Text
