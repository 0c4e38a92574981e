/-!
# Base64

Six bits to a symbol.  `encode` writes with either alphabet, with or without padding.  `decodeUrl`
reads the URL alphabet without padding and accepts exactly what `encode` writes: a symbol outside
the alphabet, an impossible length, bits left over in the last symbol and padding are errors.
-/

namespace RoomHub.Text.Base64

/-- Which symbols stand for 62 and 63. -/
inductive Alphabet where
  | standard
  | url
  deriving DecidableEq

/-- The symbol of a number below 64. -/
def symbol (alphabet : Alphabet) (n : Nat) : Char :=
  if n < 26 then Char.ofNat (0x41 + n)
  else if n < 52 then Char.ofNat (0x61 + (n - 26))
  else if n < 62 then Char.ofNat (0x30 + (n - 52))
  else
    match alphabet with
    | .standard => if n = 62 then '+' else '/'
    | .url => if n = 62 then '-' else '_'

/-- The symbols of a list of bytes, without padding. -/
def encode (alphabet : Alphabet) : List UInt8 → List Char
  | [] => []
  | [a] => [symbol alphabet (a.toNat / 4), symbol alphabet (a.toNat % 4 * 16)]
  | [a, b] =>
    [symbol alphabet (a.toNat / 4), symbol alphabet (a.toNat % 4 * 16 + b.toNat / 16),
      symbol alphabet (b.toNat % 16 * 4)]
  | a :: b :: c :: rest =>
    symbol alphabet (a.toNat / 4) :: symbol alphabet (a.toNat % 4 * 16 + b.toNat / 16) ::
      symbol alphabet (b.toNat % 16 * 4 + c.toNat / 64) :: symbol alphabet (c.toNat % 64) ::
        encode alphabet rest

/-- Symbols filled up with `=` to a multiple of four. -/
def padded (symbols : List Char) : List Char :=
  symbols ++ List.replicate ((4 - symbols.length % 4) % 4) '='

/-- Why symbols are not read. -/
inductive Error where
  | symbol (byte : UInt8) (offset : Nat)
  | length (n : Nat)
  | lastSymbol (byte : UInt8) (offset : Nat)
  | padding
  deriving DecidableEq, Repr

/-- The wording of an error. -/
def Error.message : Error → String
  | .symbol byte offset => s!"Invalid symbol {byte}, offset {offset}."
  | .length n => s!"Invalid input length: {n}"
  | .lastSymbol byte offset => s!"Invalid last symbol {byte}, offset {offset}."
  | .padding => "Invalid padding"

/-- The number of a symbol of the URL alphabet. -/
def value? (b : UInt8) : Option Nat :=
  let n := b.toNat
  if 0x41 ≤ n ∧ n ≤ 0x5a then some (n - 0x41)
  else if 0x61 ≤ n ∧ n ≤ 0x7a then some (n - 0x61 + 26)
  else if 0x30 ≤ n ∧ n ≤ 0x39 then some (n - 0x30 + 52)
  else if n = 0x2d then some 62
  else if n = 0x5f then some 63
  else none

/-- The padding byte. -/
def pad : UInt8 := 0x3d

/-- The number of the symbol `b` at `offset`. -/
def valueAt (b : UInt8) (offset : Nat) : Except Error Nat :=
  match value? b with
  | some n => .ok n
  | none => .error (.symbol b offset)

/-- The numbers of the symbols of the last group, which begins at `start`.  Padding may only come
after two symbols and only at the end. -/
def lastValues (start : Nat) : List UInt8 → Nat → Except Error (List Nat × Bool)
  | [], _ => .ok ([], false)
  | b :: rest, k =>
    if b = pad then
      if k < 2 then .error (.symbol b (start + k))
      else if rest.all (· = pad) then .ok ([], true)
      else .error (.symbol pad (start + k))
    else do
      let n ← valueAt b (start + k)
      let (ns, isPadded) ← lastValues start rest (k + 1)
      return (n :: ns, isPadded)

/-- Reads the last group, which begins at `start`. -/
def decodeLast (start : Nat) (group : List UInt8) : Except Error (List UInt8) := do
  let (ns, isPadded) ← lastValues start group 0
  let leftOver (last : Nat) : Error := .lastSymbol (group.getD last 0) (start + last)
  match ns with
  | [] => if start = 0 ∧ group.isEmpty then return [] else throw (.length start)
  | [_] => throw (.length (start + 1))
  | a :: b :: more =>
    if isPadded then throw .padding
    match more with
    | [] =>
      if b % 16 ≠ 0 then throw (leftOver 1)
      return [UInt8.ofNat (a * 4 + b / 16)]
    | [c] =>
      if c % 4 ≠ 0 then throw (leftOver 2)
      return [UInt8.ofNat (a * 4 + b / 16), UInt8.ofNat (b % 16 * 16 + c / 4)]
    | c :: d :: _ =>
      return [UInt8.ofNat (a * 4 + b / 16), UInt8.ofNat (b % 16 * 16 + c / 4),
        UInt8.ofNat (c % 4 * 64 + d)]

/-- Reads groups of four symbols; the group at the end is the last one, even if it is whole. -/
def decodeGroups (start : Nat) : List UInt8 → Except Error (List UInt8)
  | a :: b :: c :: d :: e :: rest => do
    let w ← valueAt a start
    let x ← valueAt b (start + 1)
    let y ← valueAt c (start + 2)
    let z ← valueAt d (start + 3)
    let bytes ← decodeGroups (start + 4) (e :: rest)
    return UInt8.ofNat (w * 4 + x / 16) :: UInt8.ofNat (x % 16 * 16 + y / 4) ::
      UInt8.ofNat (y % 4 * 64 + z) :: bytes
  | group => decodeLast start group

/-- Reads symbols of the URL alphabet.  A bad symbol that stands alone after whole groups is
reported before all else. -/
def decodeUrl (symbols : List UInt8) : Except Error (List UInt8) :=
  match symbols.getLast? with
  | some b =>
    if symbols.length % 4 = 1 ∧ b ≠ pad ∧ value? b = none then
      .error (.symbol b (symbols.length - 1))
    else decodeGroups 0 symbols
  | none => .ok []

end RoomHub.Text.Base64
