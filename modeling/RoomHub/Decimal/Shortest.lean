import RoomHub.Decimal.Binary64

/-!
# Shortest decimal text

`Binary64.toText` writes the fewest digits that read back as the same number; of several such texts
it takes the one nearest to the number.
-/

namespace RoomHub.Decimal

/-- The decimal number `digits * 10 ^ exponent`. -/
structure Scaled where
  digits : Nat
  exponent : Int
  deriving DecidableEq, Repr

/-- Drops at most `fuel` zeros at the end of the digits. -/
def Scaled.normalize (d : Scaled) : Nat → Scaled
  | 0 => d
  | fuel + 1 =>
    if d.digits ≠ 0 ∧ d.digits % 10 = 0 then
      Scaled.normalize ⟨d.digits / 10, d.exponent + 1⟩ fuel
    else d

namespace Binary64

/-- The reals that round to a positive number lie between two bounds, given as quarters of its unit
in the last place; the bounds belong to them if the significand is even. -/
def roundingBounds (x : Binary64) : Nat × Nat :=
  let m := x.significand
  (if m = twoTo 52 ∧ minExponent < x.exponent then 4 * m - 1 else 4 * m - 2, 4 * m + 2)

/-- Whether the decimal number rounds to the positive number `x`. -/
def roundsTo (x : Binary64) (d : Scaled) : Bool :=
  let (low, high) := x.roundingBounds
  -- compare `d` with a quarter unit `2 ^ (exponent - 2)`, both sides multiplied out
  let e := x.exponent - 2
  let left := d.digits * (if 0 ≤ d.exponent then tenTo d.exponent.toNat else 1) *
    (if 0 ≤ e then 1 else twoTo (-e).toNat)
  let unit := (if 0 ≤ d.exponent then 1 else tenTo (-d.exponent).toNat) *
    (if 0 ≤ e then twoTo e.toNat else 1)
  if x.significand % 2 = 0 then low * unit ≤ left && left ≤ high * unit
  else low * unit < left && left < high * unit

/-- The greatest `k` with `10 ^ k ≤ num / den`, for a positive quotient; the search goes down from
`start` for at most `fuel` steps. -/
def floorLog10 (num den : Nat) : Nat → Int → Int
  | 0, k => k
  | fuel + 1, k =>
    let reached := if 0 ≤ k then den * tenTo k.toNat ≤ num else den ≤ num * tenTo (-k).toNat
    if reached then k else floorLog10 num den fuel (k - 1)

/-- The better neighbour of `x` among the multiples of `10 ^ exponent`, if one rounds to `x`. -/
def neighbour? (x : Binary64) (exponent : Int) : Option Scaled :=
  let (num, den) := x.ratio
  let (n, d) := if 0 ≤ exponent then (num, den * tenTo exponent.toNat)
    else (num * tenTo (-exponent).toNat, den)
  let below : Scaled := ⟨n / d, exponent⟩
  let above : Scaled := ⟨n / d + 1, exponent⟩
  let first := if 2 * (n % d) ≤ d then below else above
  let second := if 2 * (n % d) ≤ d then above else below
  if x.roundsTo first then some first else if x.roundsTo second then some second else none

/-- The shortest decimal number that rounds to a positive number: the first of the grids with 1, 2,
up to 17 digits that has one. -/
def shortest (x : Binary64) : Scaled :=
  let (num, den) := x.ratio
  let top := floorLog10 num den 700 309
  match (List.range 17).findSome? fun (n : Nat) => x.neighbour? (top - (n : Int)) with
  | some d => Scaled.normalize d 20
  | none => ⟨0, 0⟩

/-- Numbers whose first digit stands at a place from `-5` to `15` are written out, with at least one
digit on each side of the point; all others have one digit before the point and a signed exponent
without leading zeros. -/
def toText (x : Binary64) : String :=
  let sign := if x.negative then "-" else ""
  if x.significand = 0 then sign ++ "0.0"
  else
    let d := x.shortest
    let digits := (toString d.digits).toList
    let place : Int := d.exponent + digits.length - 1
    let text :=
      if -5 ≤ place ∧ place < 0 then
        '0' :: '.' :: List.replicate (-place - 1).toNat '0' ++ digits
      else if 0 ≤ place ∧ place ≤ 15 then
        let whole := place.toNat + 1
        if digits.length ≤ whole then
          digits ++ List.replicate (whole - digits.length) '0' ++ ['.', '0']
        else digits.take whole ++ '.' :: digits.drop whole
      else
        let fraction := if digits.length = 1 then [] else '.' :: digits.drop 1
        digits.take 1 ++ fraction ++ 'e' :: (if place < 0 then '-' else '+') ::
          (toString place.natAbs).toList
    sign ++ String.ofList text

end Binary64
end RoomHub.Decimal
