import RoomHub.Json.Byte
import RoomHub.Text.Utf8

/-!
# The grammar of JSON

`Spells form bytes`: the bytes are one of the ways to write a value, or what stands between the
brackets of an array or an object.  Blanks may stand around every value, name, comma and colon; a
character of a text may stand for itself or be escaped in any of the ways in which it can be.
-/

namespace RoomHub.Json

open Byte Text

/-- What a JSON value says.  A number is kept as it is written. -/
inductive Datum where
  | null
  | flag (b : Bool)
  | number (digits : List UInt8)
  | text (s : String)
  | array (items : List Datum)
  | object (members : List (String × Datum))

/-- Bytes that mean nothing. -/
def Blank (bytes : List UInt8) : Prop := ∀ b ∈ bytes, Byte.isBlank b = true

instance (bytes : List UInt8) : Decidable (Blank bytes) :=
  List.decidableBAll (Byte.isBlank · = true) bytes

/-! ### Texts -/

/-- A hexadecimal digit of either case, with its value. -/
def IsHexDigit (b : UInt8) (n : Nat) : Prop :=
  n < 10 ∧ b.toNat = 0x30 + n ∨
    10 ≤ n ∧ n < 16 ∧ (b.toNat = 0x41 + (n - 10) ∨ b.toNat = 0x61 + (n - 10))

/-- Four hexadecimal digits, with their value. -/
inductive IsHex : Nat → List UInt8 → Prop
  | mk {a b c d : UInt8} {w x y z : Nat} (first : IsHexDigit a w) (second : IsHexDigit b x)
      (third : IsHexDigit c y) (fourth : IsHexDigit d z) :
      IsHex (w * 4096 + x * 256 + y * 16 + z) [a, b, c, d]

/-- The characters that can be escaped by one letter. -/
def shortEscapes : List (UInt8 × Char) :=
  [(quote, '"'), (backslash, '\\'), (slash, '/'), (letterB, '\x08'), (letterF, '\x0c'),
    (letterN, '\n'), (letterR, '\r'), (letterT, '\t')]

/-- The ways to write a character of a text: as itself, escaped by a letter or by its number, or, beyond
U+FFFF, as a pair of surrogates. -/
inductive SpellsChar (c : Char) : List UInt8 → Prop
  | plain (noQuote : c ≠ '"') (noBackslash : c ≠ '\\') (noControl : 0x20 ≤ c.toNat) :
      SpellsChar c (Utf8.encodeChar c)
  | short {b : UInt8} (known : (b, c) ∈ shortEscapes) : SpellsChar c [backslash, b]
  | numbered {digits : List UInt8} (hex : IsHex c.toNat digits) :
      SpellsChar c (backslash :: letterU :: digits)
  | pair {high low : List UInt8} (beyond : 0x10000 ≤ c.toNat)
      (first : IsHex (0xd800 + (c.toNat - 0x10000) / 1024) high)
      (second : IsHex (0xdc00 + (c.toNat - 0x10000) % 1024) low) :
      SpellsChar c (backslash :: letterU :: (high ++ backslash :: letterU :: low))

/-- The ways to write characters between quotes. -/
inductive SpellsChars : List Char → List UInt8 → Prop
  | nil : SpellsChars [] []
  | cons {c : Char} {cs : List Char} {bytes more : List UInt8} (first : SpellsChar c bytes)
      (rest : SpellsChars cs more) : SpellsChars (c :: cs) (bytes ++ more)

/-- Characters that need no escape can be written as they are. -/
theorem spellsChars_encode {cs : List Char}
    (plain : ∀ c ∈ cs, c ≠ '"' ∧ c ≠ '\\' ∧ 0x20 ≤ c.toNat) : SpellsChars cs (Utf8.encode cs) := by
  induction cs with
  | nil => exact .nil
  | cons c cs ih =>
    obtain ⟨noQuote, noBackslash, noControl⟩ := plain c List.mem_cons_self
    exact .cons (.plain noQuote noBackslash noControl)
      (ih fun d mem => plain d (List.mem_cons_of_mem c mem))

/-! ### Numbers -/

/-- Digits, at least one. -/
def IsDigits (bytes : List UInt8) : Prop := bytes ≠ [] ∧ ∀ b ∈ bytes, isDigit b = true

/-- The part of a number before its point: no zero stands in front of other digits. -/
def IsWhole (bytes : List UInt8) : Prop :=
  bytes = [zero] ∨ IsDigits bytes ∧ bytes.head? ≠ some zero

/-- A point and digits, or nothing. -/
def IsFraction (bytes : List UInt8) : Prop :=
  bytes = [] ∨ ∃ digits, IsDigits digits ∧ bytes = point :: digits

/-- A letter and digits with or without a sign, or nothing. -/
def IsScale (bytes : List UInt8) : Prop :=
  bytes = [] ∨ ∃ letter sign digits, (letter = letterE ∨ letter = capitalE) ∧
    (sign = [] ∨ sign = [plus] ∨ sign = [minus]) ∧ IsDigits digits ∧ bytes = letter :: (sign ++ digits)

/-- The ways to write numbers. -/
inductive IsNumber : List UInt8 → Prop
  | mk {sign whole fraction scale : List UInt8} (isSign : sign = [] ∨ sign = [minus])
      (isWhole : IsWhole whole) (isFraction : IsFraction fraction) (isScale : IsScale scale) :
      IsNumber (sign ++ (whole ++ (fraction ++ scale)))

/-! ### Values -/

/-- What is written: a value, or what stands between the brackets of an array or an object.  That
may be only the last part of it, if the first items or members have been left out. -/
inductive Form where
  | value (v : Datum)
  | items (first : Bool) (items : List Datum)
  | members (first : Bool) (members : List (String × Datum))

/-- What may stand in front of an item or a member: a comma, unless it is the first one. -/
inductive Lead : Bool → List UInt8 → Prop
  | first {blanks : List UInt8} (blank : Blank blanks) : Lead true blanks
  | later {before after : List UInt8} (blankBefore : Blank before) (blankAfter : Blank after) :
      Lead false (before ++ comma :: after)

/-- The ways to write a value. -/
inductive Spells : Form → List UInt8 → Prop
  | null : Spells (.value .null) [letterN, letterU, 0x6c, 0x6c]
  | yes : Spells (.value (.flag true)) [letterT, letterR, letterU, letterE]
  | no : Spells (.value (.flag false)) [letterF, 0x61, 0x6c, 0x73, letterE]
  | number {digits : List UInt8} (number : IsNumber digits) :
      Spells (.value (.number digits)) digits
  | text {s : String} {bytes : List UInt8} (spelled : SpellsChars s.toList bytes) :
      Spells (.value (.text s)) (quote :: (bytes ++ [quote]))
  | array {items : List Datum} {bytes : List UInt8} (inside : Spells (.items true items) bytes) :
      Spells (.value (.array items)) (bracketOpen :: (bytes ++ [bracketClose]))
  | object {members : List (String × Datum)} {bytes : List UInt8}
      (inside : Spells (.members true members) bytes) :
      Spells (.value (.object members)) (braceOpen :: (bytes ++ [braceClose]))
  | noItem {first : Bool} {blanks : List UInt8} (blank : Blank blanks) :
      Spells (.items first []) blanks
  | item {first : Bool} {v : Datum} {items : List Datum} {lead text more : List UInt8}
      (leads : Lead first lead) (value : Spells (.value v) text)
      (rest : Spells (.items false items) more) :
      Spells (.items first (v :: items)) (lead ++ (text ++ more))
  | noMember {first : Bool} {blanks : List UInt8} (blank : Blank blanks) :
      Spells (.members first []) blanks
  | member {first : Bool} {name : String} {v : Datum} {members : List (String × Datum)}
      {lead key before after text more : List UInt8} (leads : Lead first lead)
      (named : SpellsChars name.toList key) (blankBefore : Blank before) (blankAfter : Blank after)
      (value : Spells (.value v) text) (rest : Spells (.members false members) more) :
      Spells (.members first ((name, v) :: members))
        (lead ++ quote :: (key ++ quote :: (before ++ colon :: (after ++ (text ++ more)))))

end RoomHub.Json
