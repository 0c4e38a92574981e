/-!
# Bytes of JSON

Names of the bytes with a meaning in JSON, and the four blanks.
-/

namespace RoomHub.Json.Byte

@[match_pattern] def quote : UInt8 := 0x22
@[match_pattern] def plus : UInt8 := 0x2b
@[match_pattern] def comma : UInt8 := 0x2c
@[match_pattern] def minus : UInt8 := 0x2d
@[match_pattern] def point : UInt8 := 0x2e
@[match_pattern] def slash : UInt8 := 0x2f
@[match_pattern] def zero : UInt8 := 0x30
@[match_pattern] def colon : UInt8 := 0x3a
@[match_pattern] def bracketOpen : UInt8 := 0x5b
@[match_pattern] def backslash : UInt8 := 0x5c
@[match_pattern] def bracketClose : UInt8 := 0x5d
@[match_pattern] def letterB : UInt8 := 0x62
@[match_pattern] def letterE : UInt8 := 0x65
@[match_pattern] def capitalE : UInt8 := 0x45
@[match_pattern] def letterF : UInt8 := 0x66
@[match_pattern] def letterN : UInt8 := 0x6e
@[match_pattern] def letterR : UInt8 := 0x72
@[match_pattern] def letterT : UInt8 := 0x74
@[match_pattern] def letterU : UInt8 := 0x75
@[match_pattern] def braceOpen : UInt8 := 0x7b
@[match_pattern] def braceClose : UInt8 := 0x7d

/-- Space, tab, line feed and carriage return. -/
def isBlank (b : UInt8) : Bool :=
  b == 0x20 || b == 0x09 || b == 0x0a || b == 0x0d

/-- A decimal digit. -/
def isDigit (b : UInt8) : Bool :=
  0x30 ≤ b && b ≤ 0x39

/-- The value of a decimal digit. -/
def digit (b : UInt8) : Nat := b.toNat - 0x30

/-- Drops the blanks in front. -/
def skipBlanks (bytes : List UInt8) : List UInt8 :=
  bytes.dropWhile isBlank

end RoomHub.Json.Byte
