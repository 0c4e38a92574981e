import RoomHub.Decimal.Shortest
import RoomHub.Text.Quoted

/-!
# Faults of a JSON text

A reader works on the bytes that are left.  A `Fault` therefore names places by the bytes that
follow them; `Fault.report` turns such a place into a line and a column of the whole text.  A fault
whose place is still open is one found while an object or array was read: it is placed where the
reader of that object or array stops (`Fault.closeAt`).
-/

namespace RoomHub.Json

open Text Decimal

/-- A number as it is read: whole numbers of 64 bits stay exact, all others are rounded. -/
inductive Number where
  /-- A whole number from zero. -/
  | natural (n : Nat)
  /-- A whole number below zero, given by its distance from zero. -/
  | negative (n : Nat)
  | float (x : Binary64)
  deriving DecidableEq, Repr

/-- What stood where something else was expected. -/
inductive Found where
  | null
  | flag (b : Bool)
  | number (n : Number)
  | text (s : String)
  | array
  | object
  deriving DecidableEq, Repr

/-- The part of a text that its end cut off. -/
inductive Unfinished where
  | value
  | text
  | array
  | object
  deriving DecidableEq, Repr

/-- Why a text is not read. -/
inductive Cause where
  | cutOff (part : Unfinished)
  | expectedValue
  | expectedWord
  | expectedColon
  | expectedCommaOrEndOfArray
  | expectedCommaOrEndOfObject
  | keyNotText
  | trailingComma
  | trailingBytes
  | tooDeep
  | invalidNumber
  | numberTooLarge
  | invalidEscape
  | loneSurrogate
  | unpairedSurrogate
  | controlCharacter
  | invalidUtf8
  | wrongType (found : Found) (expected : String)
  | wrongValue (found : Found) (expected : String)
  | wrongLength (length : Nat) (expected : String)
  | unknownName (name : String) (known : List String)
  | missingField (name : String)
  | duplicateField (name : String)
  /-- A rule of the type that the text was read as. -/
  | refused (reason : String)
  deriving DecidableEq, Repr

/-- The spelling of a number in an error. -/
def Number.describe : Number → String
  | .natural n => s!"integer `{n}`"
  | .negative n => s!"integer `-{n}`"
  | .float x => s!"floating point `{x.toText}`"

/-- The spelling of what was found. -/
def Found.describe : Found → String
  | .null => "null"
  | .flag b => s!"boolean `{b}`"
  | .number n => n.describe
  | .text s => "string " ++ quoted s
  | .array => "sequence"
  | .object => "map"

/-- The names that would have been known. -/
def describeKnown : List String → String
  | [] => "there are no variants"
  | [a] => s!"expected `{a}`"
  | [a, b] => s!"expected `{a}` or `{b}`"
  | names => "expected one of " ++ ", ".intercalate (names.map fun n => s!"`{n}`")

/-- The wording of a cause. -/
def Cause.describe : Cause → String
  | .cutOff .value => "EOF while parsing a value"
  | .cutOff .text => "EOF while parsing a string"
  | .cutOff .array => "EOF while parsing a list"
  | .cutOff .object => "EOF while parsing an object"
  | .expectedValue => "expected value"
  | .expectedWord => "expected ident"
  | .expectedColon => "expected `:`"
  | .expectedCommaOrEndOfArray => "expected `,` or `]`"
  | .expectedCommaOrEndOfObject => "expected `,` or `\x7d`"
  | .keyNotText => "key must be a string"
  | .trailingComma => "trailing comma"
  | .trailingBytes => "trailing characters"
  | .tooDeep => "recursion limit exceeded"
  | .invalidNumber => "invalid number"
  | .numberTooLarge => "number out of range"
  | .invalidEscape => "invalid escape"
  | .loneSurrogate => "lone leading surrogate in hex escape"
  | .unpairedSurrogate => "unexpected end of hex escape"
  | .controlCharacter => "control character (\\u0000-\\u001F) found while parsing a string"
  | .invalidUtf8 => "invalid unicode code point"
  | .wrongType found expected => s!"invalid type: {found.describe}, expected {expected}"
  | .wrongValue found expected => s!"invalid value: {found.describe}, expected {expected}"
  | .wrongLength n expected => s!"invalid length {n}, expected {expected}"
  | .unknownName name known => s!"unknown variant `{name}`, {describeKnown known}"
  | .missingField name => s!"missing field `{name}`"
  | .duplicateField name => s!"duplicate field `{name}`"
  | .refused reason => reason

/-- A place in a text, given by the bytes that follow it; with `ahead` it lies one byte further, if
there is one. -/
structure Place where
  rest : List UInt8
  ahead : Bool
  deriving DecidableEq, Repr

/-- Why and where reading failed.  `rest` is what had not been read by then. -/
structure Fault where
  cause : Cause
  place : Option Place
  rest : List UInt8
  deriving DecidableEq, Repr

namespace Fault

/-- A fault of the byte read last. -/
def here (cause : Cause) (rest : List UInt8) : Fault :=
  ⟨cause, some ⟨rest, false⟩, rest⟩

/-- A fault of the byte that comes next. -/
def ahead (cause : Cause) (rest : List UInt8) : Fault :=
  ⟨cause, some ⟨rest, true⟩, rest⟩

/-- A fault that is placed later. -/
def unplaced (cause : Cause) (rest : List UInt8) : Fault :=
  ⟨cause, none, rest⟩

/-- Records that reading went on to `rest`, and places a fault there that has no place yet. -/
def closeAt (f : Fault) (rest : List UInt8) : Fault :=
  { f with place := some (f.place.getD ⟨rest, false⟩), rest := rest }

/-- Line and column of a place in `text`: lines count from one, columns are the bytes of the line
before the place. -/
def position (text : List UInt8) (place : Place) : Nat × Nat :=
  let read := text.length - place.rest.length
  let before := text.take (if place.ahead then read + 1 else read)
  let column := (before.reverse.takeWhile (· != 0x0a)).length
  (1 + before.count 0x0a, column)

end Fault

/-- A fault of a whole text: its cause, and line and column if it has a place. -/
structure Report where
  cause : Cause
  position : Option (Nat × Nat)
  deriving DecidableEq, Repr

/-- The report of a fault found in `text`. -/
def Fault.report (text : List UInt8) (f : Fault) : Report :=
  ⟨f.cause, f.place.map (position text)⟩

/-- The wording of a report. -/
def Report.message (r : Report) : String :=
  match r.position with
  | none => r.cause.describe
  | some (line, column) => s!"{r.cause.describe} at line {line} column {column}"

/-- A reader takes bytes from the front; it gives what it has read and the bytes that are left. -/
abbrev Reader (α : Type) := List UInt8 → Except Fault (α × List UInt8)

end RoomHub.Json
