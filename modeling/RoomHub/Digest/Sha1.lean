import RoomHub.Digest.Block

/-!
# SHA-1

The digest in 20 bytes with which a server confirms the key of a socket upgrade.
-/

namespace RoomHub.Digest

namespace Sha1

/-- The five words that a block is mixed into. -/
structure State where
  a : UInt32
  b : UInt32
  c : UInt32
  d : UInt32
  e : UInt32

/-- The state before the first block. -/
def State.start : State :=
  ⟨0x67452301, 0xefcdab89, 0x98badcfe, 0x10325476, 0xc3d2e1f0⟩

/-- The word after those of a schedule. -/
def nextWord (latest : List UInt32) : UInt32 :=
  rotateLeft (back latest 2 ^^^ back latest 7 ^^^ back latest 13 ^^^ back latest 15) 1

/-- The mixing function and the constant of a round. -/
def roundRule (t : Nat) (s : State) : UInt32 × UInt32 :=
  if t < 20 then ((s.b &&& s.c) ||| ((~~~s.b) &&& s.d), 0x5a827999)
  else if t < 40 then (s.b ^^^ s.c ^^^ s.d, 0x6ed9eba1)
  else if t < 60 then ((s.b &&& s.c) ||| (s.b &&& s.d) ||| (s.c &&& s.d), 0x8f1bbcdc)
  else (s.b ^^^ s.c ^^^ s.d, 0xca62c1d6)

/-- One round with its word and number. -/
def round (s : State) (step : UInt32 × Nat) : State :=
  let (f, k) := roundRule step.2 s
  ⟨rotateLeft s.a 5 + f + s.e + k + step.1, s.a, rotateLeft s.b 30, s.c, s.d⟩

/-- Mixes a block into the state. -/
def mix (s : State) (block : List UInt32) : State :=
  let schedule := extend nextWord 64 block.reverse
  let t := (schedule.zip (List.range 80)).foldl round s
  ⟨s.a + t.a, s.b + t.b, s.c + t.c, s.d + t.d, s.e + t.e⟩

end Sha1

/-- The SHA-1 digest of a message. -/
def sha1 (message : List UInt8) : List UInt8 :=
  let s := (blocks message).foldl Sha1.mix Sha1.State.start
  [s.a, s.b, s.c, s.d, s.e].flatMap bytesOfWord

end RoomHub.Digest
