import RoomHub.Json.Byte
import RoomHub.Json.Fault
import RoomHub.Text.Digits
import RoomHub.Text.Utf8

/-!
# Texts of JSON

`readText` reads a text after its opening quote and resolves its escapes; `skipText` passes over one
and checks its escapes only.  `quoteChars` writes a text: it escapes what must be escaped and nothing
else.
-/

namespace RoomHub.Json

open Byte Text

/-- The character that a one letter escape stands for. -/
def simpleEscape? : UInt8 → Option Char
  | quote => some '"'
  | backslash => some '\\'
  | slash => some '/'
  | letterB => some '\x08'
  | letterF => some '\x0c'
  | letterN => some '\n'
  | letterR => some '\r'
  | letterT => some '\t'
  | _ => none

/-- Reads four hexadecimal digits. -/
def readHex : Reader Nat
  | a :: b :: c :: d :: rest =>
    match hexValue? a, hexValue? b, hexValue? c, hexValue? d with
    | some w, some x, some y, some z => .ok (w * 4096 + x * 256 + y * 16 + z, rest)
    | _, _, _, _ => .error (.here .invalidEscape rest)
  | _ => .error (.here (.cutOff .text) [])

/-- The first half of a pair of code units beyond U+FFFF. -/
def isHighSurrogate (n : Nat) : Bool := 0xd800 ≤ n && n ≤ 0xdbff

/-- The second half of such a pair. -/
def isLowSurrogate (n : Nat) : Bool := 0xdc00 ≤ n && n ≤ 0xdfff

/-- The character of a pair of halves. -/
def joinSurrogates (high low : Nat) : Char :=
  Char.ofNat ((high - 0xd800) * 1024 + (low - 0xdc00) + 0x10000)

/-- Reads the second half that the first half `high` calls for. -/
def readLowSurrogate (high : Nat) : Reader Char
  | backslash :: letterU :: rest =>
    match readHex rest with
    | .error f => .error f
    | .ok (low, rest) =>
      if isLowSurrogate low then .ok (joinSurrogates high low, rest)
      else .error (.here .loneSurrogate rest)
  | backslash :: _ :: rest => .error (.here .unpairedSurrogate rest)
  | [backslash] => .error (.here (.cutOff .text) [])
  | _ :: rest => .error (.here .unpairedSurrogate rest)
  | [] => .error (.here (.cutOff .text) [])

/-- Reads a numbered escape after its letter. -/
def readNumbered : Reader Char := fun bytes =>
  match readHex bytes with
  | .error f => .error f
  | .ok (n, rest) =>
    if isLowSurrogate n then .error (.here .loneSurrogate rest)
    else if isHighSurrogate n then readLowSurrogate n rest
    else .ok (Char.ofNat n, rest)

/-- Reads an escape after its backslash. -/
def readEscape : Reader Char
  | [] => .error (.here (.cutOff .text) [])
  | b :: rest =>
    if b = letterU then readNumbered rest
    else
      match simpleEscape? b with
      | some c => .ok (c, rest)
      | none => .error (.here .invalidEscape rest)

theorem readHex_length {bytes rest : List UInt8} {n : Nat} (h : readHex bytes = .ok (n, rest)) :
    rest.length < bytes.length := by
  unfold readHex at h
  split at h
  · split at h <;> simp_all
    rw [← h.2]; omega
  · simp at h

theorem readNumbered_length {bytes rest : List UInt8} {c : Char}
    (h : readNumbered bytes = .ok (c, rest)) : rest.length < bytes.length := by
  unfold readNumbered at h
  split at h
  · simp at h
  · rename_i n tail hx
    have := readHex_length hx
    split at h
    · simp at h
    · split at h
      · unfold readLowSurrogate at h
        split at h <;> try simp at h
        rename_i tail' _
        split at h
        · simp at h
        · rename_i low tail'' hy
          have := readHex_length hy
          split at h <;> simp at h
          rw [← h.2]
          simp at *
          omega
      · simp at h
        rw [← h.2]
        exact this

theorem readEscape_length {bytes rest : List UInt8} {c : Char}
    (h : readEscape bytes = .ok (c, rest)) : rest.length < bytes.length := by
  unfold readEscape at h
  split at h
  · simp at h
  · split at h
    · have := readNumbered_length h
      simp
      omega
    · split at h <;> simp at h
      rw [← h.2]
      simp

/-- Passes over an escape after its backslash. -/
def skipEscape : List UInt8 → Except Fault (List UInt8)
  | [] => .error (.here (.cutOff .text) [])
  | b :: rest =>
    if b = letterU then (readHex rest).map (·.2)
    else if (simpleEscape? b).isSome then .ok rest
    else .error (.here .invalidEscape rest)

theorem skipEscape_length {bytes rest : List UInt8} (h : skipEscape bytes = .ok rest) :
    rest.length < bytes.length := by
  unfold skipEscape at h
  split at h
  · simp at h
  · rename_i b tail
    split at h
    · cases hx : readHex tail with
      | error f => simp [hx, Except.map] at h
      | ok p =>
        obtain ⟨n, r⟩ := p
        have := readHex_length hx
        simp [hx, Except.map] at h
        rw [← h]
        simp
        omega
    · split at h <;> simp at h
      rw [← h]
      simp

/-- Passes over a text after its opening quote; its characters need not be sound. -/
def skipText (bytes : List UInt8) : Except Fault (List UInt8) :=
  match bytes with
  | [] => .error (.here (.cutOff .text) [])
  | b :: rest =>
    if b = quote then .ok rest
    else if b = backslash then
      match _h : skipEscape rest with
      | .ok rest => skipText rest
      | .error f => .error f
    else if b < 0x20 then .error (.here .controlCharacter (b :: rest))
    else skipText rest
  termination_by bytes.length
  decreasing_by
    · have := skipEscape_length _h
      simp
      omega
    · simp

/-- Reads the bytes of a text after its opening quote; an escape stands for the bytes of its
character. -/
def readBytes (bytes : List UInt8) : Except Fault (List UInt8 × List UInt8) :=
  match bytes with
  | [] => .error (.here (.cutOff .text) [])
  | b :: rest =>
    if b = quote then .ok ([], rest)
    else if b = backslash then
      match _h : readEscape rest with
      | .error f => .error f
      | .ok (c, rest) =>
        match readBytes rest with
        | .error f => .error f
        | .ok (content, rest) => .ok (Utf8.encodeChar c ++ content, rest)
    else if b < 0x20 then .error (.here .controlCharacter rest)
    else
      match readBytes rest with
      | .error f => .error f
      | .ok (content, rest) => .ok (b :: content, rest)
  termination_by bytes.length
  decreasing_by
    · have := readEscape_length _h
      simp only [List.length_cons]
      omega
    · simp

/-- The fault of a text, read from `bytes`, of whose content the last `left` bytes begin with a bad
sequence.  It is placed that far before the closing quote, so each escape after the bad sequence
moves it. -/
def badSequence (bytes rest : List UInt8) (left : Nat) : Fault :=
  { cause := .invalidUtf8
    place := some ⟨bytes.drop (bytes.length - (rest.length + left)), false⟩
    rest := rest }

/-- Reads a text after its opening quote. -/
def readText : Reader String := fun bytes =>
  match readBytes bytes with
  | .error f => .error f
  | .ok (content, rest) =>
    match Utf8.decode content with
    | .ok cs => .ok (String.ofList cs, rest)
    | .error sound => .error (badSequence bytes rest (content.length - sound))

/-! ### Writing texts -/

/-- A character between quotes: quotes, backslashes and control characters are escaped. -/
def escapeChar (c : Char) : List Char :=
  if c = '"' then ['\\', '"']
  else if c = '\\' then ['\\', '\\']
  else if c = '\x08' then ['\\', 'b']
  else if c = '\x0c' then ['\\', 'f']
  else if c = '\n' then ['\\', 'n']
  else if c = '\r' then ['\\', 'r']
  else if c = '\t' then ['\\', 't']
  else if c.toNat < 0x20 then '\\' :: 'u' :: fixedHex 4 c.toNat
  else [c]

/-- The characters of a text between quotes. -/
def quoteChars (cs : List Char) : List Char :=
  '"' :: cs.flatMap escapeChar ++ ['"']

end RoomHub.Json
