import RoomHub.Json.Number
import RoomHub.Json.Skip

/-!
# Reading values

Readers of single values and the rules shared by all arrays and objects.  An array or object is
closed even if reading its contents failed (`closeWith`), since that decides where a fault without a
place is put and where reading could go on.  `readAny` reads a value of any kind.
-/

namespace RoomHub.Json

open Byte

/-- The fault of the value at the front when something else was expected.  Words, numbers and texts
are read first and must be sound themselves; brackets are left alone. -/
def mismatch (expected : String) : List UInt8 → Fault
  | [] => .ahead .expectedValue []
  | b :: rest =>
    let word (tail : List UInt8) (found : Found) : Fault :=
      match readWord tail rest with
      | .ok rest => .here (.wrongType found expected) rest
      | .error f => f
    let number (positive : Bool) (bytes : List UInt8) : Fault :=
      match readNumber positive bytes with
      | .ok (n, rest) => .here (.wrongType (.number n) expected) rest
      | .error f => f
    if b = letterN then word nullTail .null
    else if b = letterT then word trueTail (.flag true)
    else if b = letterF then word falseTail (.flag false)
    else if b = minus then number false rest
    else if isDigit b then number true (b :: rest)
    else if b = quote then
      match readText rest with
      | .ok (s, rest) => .here (.wrongType (.text s) expected) rest
      | .error f => f
    else if b = bracketOpen then .here (.wrongType .array expected) (b :: rest)
    else if b = braceOpen then .here (.wrongType .object expected) (b :: rest)
    else .ahead .expectedValue (b :: rest)

/-! ### Single values -/

/-- Reads a text and gives it to `visit`, whose refusal is placed after the text. -/
def readTextAs {α : Type} (expected : String) (visit : String → Except Cause α) : Reader α :=
  fun bytes =>
    match skipBlanks bytes with
    | [] => .error (.ahead (.cutOff .value) [])
    | b :: rest =>
      if b = quote then
        match readText rest with
        | .error f => .error f
        | .ok (s, rest) =>
          match visit s with
          | .ok a => .ok (a, rest)
          | .error cause => .error (.here cause rest)
      else .error (mismatch expected (b :: rest))

/-- Reads a text. -/
def readString : Reader String := readTextAs "a string" .ok

/-- Reads `true` or `false`. -/
def readFlag : Reader Bool := fun bytes =>
  match skipBlanks bytes with
  | [] => .error (.ahead (.cutOff .value) [])
  | b :: rest =>
    if b = letterT then (readWord trueTail rest).map (true, ·)
    else if b = letterF then (readWord falseTail rest).map (false, ·)
    else .error (mismatch "a boolean" (b :: rest))

/-- Reads `null`, which stands for the absent value, or a value. -/
def readOptional {α : Type} (read : Reader α) : Reader (Option α) := fun bytes =>
  match skipBlanks bytes with
  | b :: rest =>
    if b = letterN then (readWord nullTail rest).map (none, ·)
    else (read (b :: rest)).map fun (a, rest) => (some a, rest)
  | [] => (read []).map fun (a, rest) => (some a, rest)

/-- Reads a number and gives it to `visit`, whose refusal is placed after the number. -/
def readNumberAs {α : Type} (expected : String) (visit : Number → Except Cause α) : Reader α :=
  fun bytes =>
    let visited (result : Except Fault (Number × List UInt8)) : Except Fault (α × List UInt8) :=
      match result with
      | .error f => .error f
      | .ok (n, rest) =>
        match visit n with
        | .ok a => .ok (a, rest)
        | .error cause => .error (.here cause rest)
    match skipBlanks bytes with
    | [] => .error (.ahead (.cutOff .value) [])
    | b :: rest =>
      if b = minus then visited (readNumber false rest)
      else if isDigit b then visited (readNumber true (b :: rest))
      else .error (mismatch expected (b :: rest))

/-- A signed whole number of 64 bits. -/
def signed64 (n : Number) : Except Cause Int :=
  match n with
  | .natural k => if k < Decimal.twoTo 63 then .ok k else .error (.wrongValue (.number n) "i64")
  | .negative k => .ok (-k)
  | .float _ => .error (.wrongType (.number n) "i64")

/-- Reads a signed whole number of 64 bits. -/
def readSigned64 : Reader Int := readNumberAs "i64" signed64

/-- A whole number of 64 bits without a sign. -/
def unsigned64 (n : Number) : Except Cause Nat :=
  match n with
  | .natural k => .ok k
  | .negative _ => .error (.wrongValue (.number n) "usize")
  | .float _ => .error (.wrongType (.number n) "usize")

/-- Reads a whole number of 64 bits without a sign. -/
def readUnsigned64 : Reader Nat := readNumberAs "usize" unsigned64

/-! ### Arrays and objects -/

/-- Reads the end of an array whose items have been read. -/
def endArray (bytes : List UInt8) : Except Fault (List UInt8) :=
  match skipBlanks bytes with
  | [] => .error (.ahead (.cutOff .array) [])
  | b :: rest =>
    if b = bracketClose then .ok rest
    else if b = comma then
      match skipBlanks rest with
      | [] => .error (.ahead .trailingBytes [])
      | c :: more =>
        .error (.ahead (if c = bracketClose then .trailingComma else .trailingBytes) (c :: more))
    else .error (.ahead .trailingBytes (b :: rest))

/-- Reads the end of an object whose members have been read. -/
def endObject (bytes : List UInt8) : Except Fault (List UInt8) :=
  match skipBlanks bytes with
  | [] => .error (.ahead (.cutOff .object) [])
  | b :: rest =>
    if b = braceClose then .ok rest
    else .error (.ahead (if b = comma then .trailingComma else .trailingBytes) (b :: rest))

/-- Closes an array or object after its contents.  If those had a fault, that one counts; the bytes
that the closing has passed over are passed over all the same. -/
def closeWith {α : Type} (close : List UInt8 → Except Fault (List UInt8))
    (contents : Except Fault (α × List UInt8)) : Except Fault (α × List UInt8) :=
  match contents with
  | .ok (a, rest) =>
    match close rest with
    | .ok rest => .ok (a, rest)
    | .error f => .error f
  | .error f =>
    .error (f.closeAt (match close f.rest with
      | .ok rest => rest
      | .error g => g.rest))

/-- The start of the next item of an array, or nothing at its closing bracket. -/
def nextItem (first : Bool) (bytes : List UInt8) : Except Fault (Option (List UInt8)) :=
  match skipBlanks bytes with
  | [] => .error (.ahead (.cutOff .array) [])
  | b :: rest =>
    if b = bracketClose then .ok none
    else if first then .ok (some (b :: rest))
    else if b = comma then
      match skipBlanks rest with
      | [] => .error (.ahead (.cutOff .value) [])
      | c :: more =>
        if c = bracketClose then .error (.ahead .trailingComma (c :: more))
        else .ok (some (c :: more))
    else .error (.ahead .expectedCommaOrEndOfArray (b :: rest))

/-- What follows the opening quote of the next name of an object, or nothing at its closing
bracket. -/
def nextName (first : Bool) (bytes : List UInt8) : Except Fault (Option (List UInt8)) :=
  match skipBlanks bytes with
  | [] => .error (.ahead (.cutOff .object) [])
  | b :: rest =>
    if b = braceClose then .ok none
    else if first then
      if b = quote then .ok (some rest) else .error (.ahead .keyNotText (b :: rest))
    else if b = comma then
      match skipBlanks rest with
      | [] => .error (.ahead (.cutOff .value) [])
      | c :: more =>
        if c = quote then .ok (some more)
        else .error (.ahead (if c = braceClose then .trailingComma else .keyNotText) (c :: more))
    else .error (.ahead .expectedCommaOrEndOfObject (b :: rest))

/-- Reads items up to the closing bracket, which is left.  Every item takes at least a byte, so
`fuel` beyond the number of bytes is enough. -/
def readItems {α : Type} (item : Reader α) : Nat → Bool → Reader (List α)
  | 0, _, bytes => .error (.here (.cutOff .array) bytes)
  | fuel + 1, first, bytes =>
    match nextItem first bytes with
    | .error f => .error f
    | .ok none => .ok ([], skipBlanks bytes)
    | .ok (some bytes) =>
      match item bytes with
      | .error f => .error f
      | .ok (a, rest) =>
        match readItems item fuel false rest with
        | .error f => .error f
        | .ok (as, rest) => .ok (a :: as, rest)

/-- Reads members, whose names `member` is given, up to the closing bracket, which is left. -/
def readMembers {α : Type} (member : String → α → Reader α) : Nat → Bool → α → Reader α
  | 0, _, _, bytes => .error (.here (.cutOff .object) bytes)
  | fuel + 1, first, state, bytes =>
    match nextName first bytes with
    | .error f => .error f
    | .ok none => .ok (state, skipBlanks bytes)
    | .ok (some bytes) =>
      match readText bytes with
      | .error f => .error f
      | .ok (name, rest) =>
        match member name state rest with
        | .error f => .error f
        | .ok (state, rest) => readMembers member fuel false state rest

/-- Reads the items of an array after its bracket, and the closing bracket. -/
def readArrayTail {α : Type} (item : Reader α) : Reader (List α) := fun bytes =>
  closeWith endArray (readItems item (bytes.length + 1) true bytes)

/-- Reads an array. -/
def readArray {α : Type} (item : Reader α) : Reader (List α) := fun bytes =>
  match skipBlanks bytes with
  | [] => .error (.ahead (.cutOff .value) [])
  | b :: rest =>
    if b = bracketOpen then readArrayTail item rest else .error (mismatch "a sequence" (b :: rest))

/-! ### Values of any kind -/

/-- A value of any kind. -/
inductive Value where
  | null
  | flag (b : Bool)
  | number (n : Number)
  | text (s : String)
  | array (items : List Value)
  | object (members : List (String × Value))

/-- Reads a value with at most `depth` brackets inside one another. -/
def readAny : Nat → Reader Value
  | depth, bytes =>
    match skipBlanks bytes with
    | [] => .error (.ahead (.cutOff .value) [])
    | b :: rest =>
      if b = letterN then (readWord nullTail rest).map (.null, ·)
      else if b = letterT then (readWord trueTail rest).map (.flag true, ·)
      else if b = letterF then (readWord falseTail rest).map (.flag false, ·)
      else if b = minus then (readNumber false rest).map fun (n, rest) => (.number n, rest)
      else if isDigit b then (readNumber true (b :: rest)).map fun (n, rest) => (.number n, rest)
      else if b = quote then (readText rest).map fun (s, rest) => (.text s, rest)
      else if b = bracketOpen ∨ b = braceOpen then
        match depth with
        | 0 => .error (.ahead .tooDeep (b :: rest))
        | depth + 1 =>
          if b = bracketOpen then
            (readArrayTail (readAny depth) rest).map fun (items, rest) => (.array items, rest)
          else
            let member (name : String) (members : List (String × Value)) : Reader _ := fun bytes =>
              match readColon bytes with
              | .error f => .error f
              | .ok bytes =>
                (readAny depth bytes).map fun (v, rest) => (members ++ [(name, v)], rest)
            (closeWith endObject (readMembers member (rest.length + 1) true [] rest)).map
              fun (members, rest) => (.object members, rest)
      else .error (.ahead .expectedValue (b :: rest))

/-- The number of brackets that may stand inside one another in one text. -/
def maxDepth : Nat := 127

/-! ### Whole texts -/

/-- Reads a text that holds one value and blanks. -/
def readAll {α : Type} (read : Reader α) (bytes : List UInt8) : Except Fault α :=
  match read bytes with
  | .error f => .error f
  | .ok (a, rest) =>
    match skipBlanks rest with
    | [] => .ok a
    | b :: rest => .error (.ahead .trailingBytes (b :: rest))

/-- Reads a text that holds one value and blanks; otherwise a report with the fault's position. -/
def decode {α : Type} (read : Reader α) (bytes : List UInt8) : Except Report α :=
  (readAll read bytes).mapError (Fault.report bytes)

end RoomHub.Json
