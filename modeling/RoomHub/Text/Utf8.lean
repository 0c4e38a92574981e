/-!
# UTF-8

`encode` writes characters as bytes and `decode` reads them back.  A sequence is read only in its
shortest form, never as a surrogate and never beyond U+10FFFF; `decode` reports how many bytes
before the first bad sequence are sound.  `decodeLossy` puts U+FFFD in place of bad sequences.
-/

namespace RoomHub.Text.Utf8

/-- The bytes of one character. -/
def encodeChar (c : Char) : List UInt8 :=
  let n := c.toNat
  if n < 0x80 then [UInt8.ofNat n]
  else if n < 0x800 then [UInt8.ofNat (0xc0 + n / 64), UInt8.ofNat (0x80 + n % 64)]
  else if n < 0x10000 then
    [UInt8.ofNat (0xe0 + n / 4096), UInt8.ofNat (0x80 + n / 64 % 64), UInt8.ofNat (0x80 + n % 64)]
  else
    [UInt8.ofNat (0xf0 + n / 262144), UInt8.ofNat (0x80 + n / 4096 % 64),
      UInt8.ofNat (0x80 + n / 64 % 64), UInt8.ofNat (0x80 + n % 64)]

/-- The bytes of a list of characters. -/
def encode (cs : List Char) : List UInt8 :=
  cs.flatMap encodeChar

/-- The bytes of a text. -/
def ofText (s : String) : List UInt8 :=
  encode s.toList

/-- What follows the first `n` bytes, if these are whole characters. -/
def dropBytes : Nat → List Char → Option (List Char)
  | 0, cs => some cs
  | _ + 1, [] => none
  | n + 1, c :: cs => if c.utf8Size ≤ n + 1 then dropBytes (n + 1 - c.utf8Size) cs else none

/-- The first `n` bytes, if these are whole characters. -/
def takeBytes : Nat → List Char → Option (List Char)
  | 0, _ => some []
  | _ + 1, [] => none
  | n + 1, c :: cs =>
    if c.utf8Size ≤ n + 1 then (takeBytes (n + 1 - c.utf8Size) cs).map (c :: ·) else none

/-- The payload of a continuation byte. -/
def continuation? (b : UInt8) : Option Nat :=
  if 0x80 ≤ b.toNat ∧ b.toNat < 0xc0 then some (b.toNat - 0x80) else none

/-- The second byte of a sequence that opens with `lead`: besides being a continuation byte it must
not make the sequence overlong, a surrogate or too large. -/
def second? (lead b : UInt8) : Option Nat :=
  let l := lead.toNat
  let n := b.toNat
  let low := if l == 0xe0 then 0xa0 else if l == 0xf0 then 0x90 else 0x80
  let high := if l == 0xed then 0xa0 else if l == 0xf4 then 0x90 else 0xc0
  if low ≤ n ∧ n < high then some (n - 0x80) else none

/-- What stands at the head of a byte list. -/
inductive Head where
  /-- A sound sequence of `length` bytes. -/
  | char (c : Char) (length : Nat)
  /-- A bad sequence; `length` bytes of it could have begun a sound one, at least one byte. -/
  | bad (length : Nat)
  deriving DecidableEq, Repr

/-- Reads the sequence that `lead` opens. -/
def head (lead : UInt8) (rest : List UInt8) : Head :=
  let l := lead.toNat
  if l < 0x80 then .char (Char.ofNat l) 1
  else if 0xc2 ≤ l ∧ l < 0xe0 then
    match rest with
    | b :: _ =>
      match second? lead b with
      | some y => .char (Char.ofNat ((l - 0xc0) * 64 + y)) 2
      | none => .bad 1
    | [] => .bad 1
  else if 0xe0 ≤ l ∧ l < 0xf0 then
    match rest with
    | b :: rest =>
      match second? lead b with
      | none => .bad 1
      | some x =>
        match rest with
        | b :: _ =>
          match continuation? b with
          | some y => .char (Char.ofNat ((l - 0xe0) * 4096 + x * 64 + y)) 3
          | none => .bad 2
        | [] => .bad 2
    | [] => .bad 1
  else if 0xf0 ≤ l ∧ l < 0xf5 then
    match rest with
    | b :: rest =>
      match second? lead b with
      | none => .bad 1
      | some w =>
        match rest with
        | b :: rest =>
          match continuation? b with
          | none => .bad 2
          | some x =>
            match rest with
            | b :: _ =>
              match continuation? b with
              | some y => .char (Char.ofNat ((l - 0xf0) * 262144 + w * 4096 + x * 64 + y)) 4
              | none => .bad 3
            | [] => .bad 3
        | [] => .bad 2
    | [] => .bad 1
  else .bad 1

/-- Reads all bytes; the number of bytes before the first bad sequence if there is one. -/
def decode (bytes : List UInt8) : Except Nat (List Char) :=
  match bytes with
  | [] => .ok []
  | b :: rest =>
    match head b rest with
    | .bad _ => .error 0
    | .char c n =>
      match decode (rest.drop (n - 1)) with
      | .ok cs => .ok (c :: cs)
      | .error k => .error (n + k)
  termination_by bytes.length
  decreasing_by simp only [List.length_drop, List.length_cons]; omega

/-- Reads all bytes, with U+FFFD for each bad sequence. -/
def decodeLossy (bytes : List UInt8) : List Char :=
  match bytes with
  | [] => []
  | b :: rest =>
    match head b rest with
    | .bad n => '\uFFFD' :: decodeLossy (rest.drop (n - 1))
    | .char c n => c :: decodeLossy (rest.drop (n - 1))
  termination_by bytes.length
  decreasing_by all_goals (simp only [List.length_drop, List.length_cons]; omega)

/-- The text that bytes encode, if they encode one. -/
def text? (bytes : List UInt8) : Option String :=
  match decode bytes with
  | .ok cs => some (String.ofList cs)
  | .error _ => none

end RoomHub.Text.Utf8
