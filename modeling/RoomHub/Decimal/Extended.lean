import RoomHub.Decimal.Shortest

/-!
# Numbers with infinities

`Extended` adds to the finite numbers the two infinities and what is no number at all.
`Extended.ofText?` reads a decimal number and rounds it once; `Extended.text` writes the fewest digits
that read back, without an exponent.
-/

namespace RoomHub.Decimal

/-- A number, an infinity or neither. -/
inductive Extended where
  | finite (x : Binary64)
  | infinite (negative : Bool)
  | undefined
  deriving DecidableEq, Repr

namespace Extended

/-- Equality as numbers: the two zeros are equal, and what is no number equals itself. -/
def same : Extended → Extended → Bool
  | .finite x, .finite y => x = y || (x.significand = 0 && y.significand = 0)
  | x, y => x = y

/-- The value of decimal digits. -/
def digitsValue (cs : List Char) : Nat :=
  cs.foldl (fun n c => 10 * n + (c.toNat - 0x30)) 0

/-- The number `digits * 10 ^ exponent`, rounded.  If the first digit stands more than 400 places away
from the point, the number is beyond all numbers or rounds to zero. -/
def ofScaled (negative : Bool) (digits : Nat) (exponent : Int) : Extended :=
  let place := exponent + (toString digits).length
  let rounded :=
    if digits = 0 ∨ place < -400 then some (Binary64.zero negative)
    else if 400 < place then none
    else if 0 ≤ exponent then Binary64.ofRatio negative (digits * tenTo exponent.toNat) 1
    else Binary64.ofRatio negative digits (tenTo (-exponent).toNat)
  match rounded with
  | some x => .finite x
  | none => .infinite negative

/-- A sign, which may be absent, and the rest. -/
def splitSign : List Char → Bool × List Char
  | '+' :: rest => (false, rest)
  | '-' :: rest => (true, rest)
  | cs => (false, cs)

/-- Reads an exponent, which may be absent, to the end of the text. -/
def exponent? : List Char → Option Int
  | [] => some 0
  | c :: rest =>
    if c = 'e' ∨ c = 'E' then
      let (negative, digits) := splitSign rest
      if digits.isEmpty || !digits.all Char.isDigit then none
      else some (if negative then -(digitsValue digits) else digitsValue digits)
    else none

/-- Reads digits with a point somewhere and an exponent. -/
def ofDigits? (negative : Bool) (cs : List Char) : Option Extended :=
  let whole := cs.takeWhile Char.isDigit
  let rest := cs.dropWhile Char.isDigit
  let (fraction, rest) := match rest with
    | '.' :: more => (more.takeWhile Char.isDigit, more.dropWhile Char.isDigit)
    | rest => ([], rest)
  if whole.isEmpty && fraction.isEmpty then none
  else
    (exponent? rest).map fun e =>
      ofScaled negative (digitsValue (whole ++ fraction)) (e - fraction.length)

/-- A word in any case. -/
def word? (negative : Bool) (cs : List Char) : Option Extended :=
  let word := String.ofList (cs.map Char.toLower)
  if word = "inf" ∨ word = "infinity" then some (.infinite negative)
  else if word = "nan" then some .undefined
  else none

/-- Reads a number: a sign, then a word or digits. -/
def ofText? (s : String) : Option Extended :=
  let (negative, cs) := splitSign s.toList
  (word? negative cs).or (ofDigits? negative cs)

/-- The digits of a scaled number, written out. -/
def plainDigits (d : Scaled) : List Char :=
  let digits := (toString d.digits).toList
  if 0 ≤ d.exponent then digits ++ List.replicate d.exponent.toNat '0'
  else
    let places := (-d.exponent).toNat
    let padded := List.replicate (places + 1 - digits.length) '0' ++ digits
    padded.take (padded.length - places) ++ '.' :: padded.drop (padded.length - places)

/-- The text of a number. -/
def text : Extended → String
  | .undefined => "NaN"
  | .infinite negative => if negative then "-inf" else "inf"
  | .finite x =>
    let digits := if x.significand = 0 then ['0'] else plainDigits x.shortest
    String.ofList (if x.negative then '-' :: digits else digits)

end Extended
end RoomHub.Decimal
