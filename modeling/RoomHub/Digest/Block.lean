/-!
# Messages in blocks

Both digests of this library read a message in blocks of sixteen words of 32 bits, after padding it
with a single bit, zeros and its length in bits.
-/

namespace RoomHub.Digest

/-- Rotates a word to the right. -/
def rotateRight (x : UInt32) (n : UInt32) : UInt32 :=
  (x >>> n) ||| (x <<< (32 - n))

/-- Rotates a word to the left. -/
def rotateLeft (x : UInt32) (n : UInt32) : UInt32 :=
  (x <<< n) ||| (x >>> (32 - n))

/-- The last `width` bytes of a number, highest first. -/
def bytesOfNat : Nat → Nat → List UInt8
  | 0, _ => []
  | width + 1, n => bytesOfNat width (n / 256) ++ [UInt8.ofNat (n % 256)]

/-- The bytes of a word, highest first. -/
def bytesOfWord (w : UInt32) : List UInt8 := bytesOfNat 4 w.toNat

/-- The word of four bytes, highest first. -/
def wordOfBytes (a b c d : UInt8) : UInt32 :=
  UInt32.ofNat (((a.toNat * 256 + b.toNat) * 256 + c.toNat) * 256 + d.toNat)

/-- The words of a list of bytes; up to three bytes at the end are left out. -/
def words : List UInt8 → List UInt32
  | a :: b :: c :: d :: rest => wordOfBytes a b c d :: words rest
  | _ => []

/-- A message followed by its padding: the length is a multiple of 64 bytes. -/
def pad (message : List UInt8) : List UInt8 :=
  let zeros := (119 - message.length % 64) % 64
  message ++ 0x80 :: List.replicate zeros 0 ++ bytesOfNat 8 (message.length * 8)

/-- The blocks of sixteen words, at most `count` of them. -/
def blocksOf : Nat → List UInt32 → List (List UInt32)
  | 0, _ => []
  | count + 1, ws => if ws.isEmpty then [] else ws.take 16 :: blocksOf count (ws.drop 16)

/-- The blocks of a padded message. -/
def blocks (message : List UInt8) : List (List UInt32) :=
  let ws := words (pad message)
  blocksOf ws.length ws

/-- Extends a block to more words: `next` computes each from those before it, latest first. -/
def extend (next : List UInt32 → UInt32) : Nat → List UInt32 → List UInt32
  | 0, latest => latest.reverse
  | count + 1, latest => extend next count (next latest :: latest)

/-- The word that stands `n` places back, counting from zero. -/
def back (latest : List UInt32) (n : Nat) : UInt32 := latest.getD n 0

end RoomHub.Digest
