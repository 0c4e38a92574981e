import RoomHub.Json.Byte
import RoomHub.Json.Fault

/-!
# Reading numbers

`readNumber` reads a number after its sign.  Digits are gathered into 64 bits; the digits that no
longer fit only shift the decimal point, so a long number is rounded from its first digits.
-/

namespace RoomHub.Json

open Byte Decimal

/-- The greatest significand that digits are gathered into. -/
def maxSignificand : Nat := twoTo 64 - 1

/-- The greatest exponent that is read exactly. -/
def maxExponent : Nat := twoTo 31 - 1

/-- Gathers digits as long as the result is at most `limit`: the result, how many digits it took and
the bytes from the first digit that does not fit or the first other byte. -/
def gatherDigits (limit : Nat) : Nat → Nat → List UInt8 → Nat × Nat × List UInt8
  | value, count, b :: rest =>
    if isDigit b ∧ value * 10 + digit b ≤ limit then
      gatherDigits limit (value * 10 + digit b) (count + 1) rest
    else (value, count, b :: rest)
  | value, count, [] => (value, count, [])

/-- Whether a digit comes next. -/
def digitAhead : List UInt8 → Bool
  | b :: _ => isDigit b
  | [] => false

/-- The number nearest to `10 ^ k`. -/
def powerOfTen (k : Nat) : Option Binary64 :=
  Binary64.ofNat (tenTo k)

/-- The greatest power of ten that is a number. -/
def maxPowerOfTen : Nat := 308

/-- `x / 10 ^ k` by a division at a time, each by at most `10 ^ 308`; `k` is at most `308` more than
`308` times the first argument. -/
def unscaleByTen : Nat → Binary64 → Nat → Option Binary64
  | 0, x, k => (powerOfTen k).bind x.div
  | steps + 1, x, k =>
    if k ≤ maxPowerOfTen then (powerOfTen k).bind x.div
    else if x.significand = 0 then some x
    else ((powerOfTen maxPowerOfTen).bind x.div).bind fun y => unscaleByTen steps y (k - maxPowerOfTen)

/-- `x * 10 ^ exponent`, by one multiplication or by divisions; `none` if it is too large. -/
def scaleByTen (x : Binary64) (exponent : Int) : Option Binary64 :=
  if exponent < 0 then unscaleByTen ((-exponent).toNat / maxPowerOfTen) x (-exponent).toNat
  else if exponent.toNat ≤ maxPowerOfTen then (powerOfTen exponent.toNat).bind x.mul
  else if x.significand = 0 then some x
  else none

/-- The number `significand * 10 ^ exponent` with a sign. -/
def floatOf (positive : Bool) (significand : Nat) (exponent : Int) (rest : List UInt8) :
    Except Fault (Number × List UInt8) :=
  match (Binary64.ofNat significand).bind (scaleByTen · exponent) with
  | some x => .ok (.float (if positive then x else x.neg), rest)
  | none => .error (.here .numberTooLarge rest)

/-- Reads an exponent after its letter. -/
def readExponent (positive : Bool) (significand : Nat) (start : Int) : Reader Number := fun bytes =>
  let (raises, bytes) := match bytes with
    | plus :: rest => (true, rest)
    | minus :: rest => (false, rest)
    | _ => (true, bytes)
  match bytes with
  | [] => .error (.here (.cutOff .value) [])
  | b :: rest =>
    if isDigit b then
      let (value, _, rest) := gatherDigits maxExponent (digit b) 0 rest
      if digitAhead rest then
        if significand ≠ 0 ∧ raises then .error (.here .numberTooLarge (rest.drop 1))
        else .ok (.float (Binary64.zero (!positive)), rest.dropWhile isDigit)
      else floatOf positive significand (if raises then start + value else start - value) rest
    else .error (.here .invalidNumber rest)

/-- Reads what may follow the digits of a number that is no longer whole. -/
def readScale (positive : Bool) (significand : Nat) (exponent : Int) : Reader Number
  | letterE :: rest => readExponent positive significand exponent rest
  | capitalE :: rest => readExponent positive significand exponent rest
  | rest => floatOf positive significand exponent rest

/-- Reads a fraction after its point. -/
def readFraction (positive : Bool) (significand : Nat) (exponent : Int) : Reader Number := fun bytes =>
  let (significand, count, rest) := gatherDigits maxSignificand significand 0 bytes
  let exponent := exponent - count
  if digitAhead rest then readScale positive significand exponent (rest.dropWhile isDigit)
  else if count = 0 then
    .error (.ahead (if rest.isEmpty then .cutOff .value else .invalidNumber) rest)
  else readScale positive significand exponent rest

/-- The number whose digits are all read. -/
def wholeNumber (positive : Bool) (significand : Nat) : Number :=
  if positive then .natural significand
  else if significand = 0 ∨ twoTo 63 < significand then
    match Binary64.ofNat significand with
    | some x => .float x.neg
    | none => .float (Binary64.zero true)
  else .negative significand

/-- Reads what follows the digits before the point. -/
def readTail (positive : Bool) (significand : Nat) : Reader Number
  | point :: rest => readFraction positive significand 0 rest
  | letterE :: rest => readExponent positive significand 0 rest
  | capitalE :: rest => readExponent positive significand 0 rest
  | rest => .ok (wholeNumber positive significand, rest)

/-- Reads a number after its sign. -/
def readNumber (positive : Bool) : Reader Number
  | [] => .error (.here (.cutOff .value) [])
  | b :: rest =>
    if b = zero then
      if digitAhead rest then .error (.ahead .invalidNumber rest)
      else readTail positive 0 rest
    else if isDigit b then
      let (significand, _, rest) := gatherDigits maxSignificand (digit b) 0 rest
      if digitAhead rest then
        let tail := rest.dropWhile isDigit
        let exponent : Int := rest.length - tail.length
        match tail with
        | point :: more => readFraction positive significand exponent more
        | _ => readScale positive significand exponent tail
      else readTail positive significand rest
    else .error (.here .invalidNumber rest)

end RoomHub.Json
