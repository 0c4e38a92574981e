import RoomHub.Text.Ascii
import RoomHub.Text.Digits
import RoomHub.Text.Utf8

/-!
# Percent encoding

`decode` puts a byte in the place of every percent sign that two hexadecimal digits follow; any other
percent sign stands for itself.  `formPairs` reads the names and values of a form, where a plus sign
stands for a space and bad UTF-8 is replaced.
-/

namespace RoomHub.Text.Percent

/-- The byte that opens a sequence. -/
def sign : UInt8 := 0x25

/-- The byte that two hexadecimal digits denote. -/
def byte? (a b : UInt8) : Option UInt8 := do
  let high ← hexValue? a
  let low ← hexValue? b
  return UInt8.ofNat (16 * high + low)

/-- The bytes that are denoted. -/
def decode : List UInt8 → List UInt8
  | a :: b :: c :: rest =>
    if a = sign then
      match byte? b c with
      | some x => x :: decode rest
      | none => a :: decode (b :: c :: rest)
    else a :: decode (b :: c :: rest)
  | bytes => bytes

/-- The text that an encoded text denotes, if its bytes are UTF-8. -/
def text? (s : List Char) : Option String :=
  Utf8.text? (decode (Utf8.encode s))

/-- A name or a value of a form. -/
def formText (s : List Char) : String :=
  let spaced := s.map fun c => if c = '+' then ' ' else c
  String.ofList (Utf8.decodeLossy (decode (Utf8.encode spaced)))

/-- The names and values of a form.  The first equals sign of a piece ends its name. -/
def formPairs (s : List Char) : List (String × String) :=
  ((pieces '&' s).filter (· ≠ [])).map fun piece =>
    (formText (piece.takeWhile (· ≠ '=')), formText ((piece.dropWhile (· ≠ '=')).drop 1))

end RoomHub.Text.Percent
