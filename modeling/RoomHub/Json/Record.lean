import RoomHub.Json.Value

/-!
# Reading records

A `Record` says how an object with known members becomes a value: members may come in any order,
none of the known ones twice, and unknown ones are passed over.  An array with the values in the
order of the fields is accepted as well.  A `Choice` is one of several names, alone or as the only
member of an object with the value `null`.
-/

namespace RoomHub.Json

open Byte

/-- A known member of a record whose fields are gathered in a `σ`. -/
structure Field (σ : Type) where
  name : String
  /-- Whether the member has been read. -/
  present : σ → Bool
  /-- Reads the member's value and keeps it. -/
  read : σ → Reader σ
  /-- Whether an array may end before this field. -/
  optional : Bool

/-- A field that is kept as an option. -/
def Field.of {σ β : Type} (name : String) (optional : Bool) (get : σ → Option β)
    (set : σ → β → σ) (read : Reader β) : Field σ where
  name := name
  present s := (get s).isSome
  read s := fun bytes => (read bytes).map fun (b, rest) => (set s b, rest)
  optional := optional

/-- How an object or array becomes an `α`. -/
structure Record (σ α : Type) where
  /-- The name in errors. -/
  name : String
  fields : List (Field σ)
  empty : σ
  /-- Builds the value; the first field that is missing is the fault. -/
  finish : σ → Except Cause α

/-- The value of a field that must be there. -/
def required {β : Type} (name : String) : Option β → Except Cause β
  | some b => .ok b
  | none => .error (.missingField name)

namespace Record

variable {σ α : Type}

/-- Reads a member after its name. -/
def readMember (r : Record σ α) (name : String) (s : σ) : Reader σ := fun bytes =>
  match r.fields.find? (·.name == name) with
  | some field =>
    if field.present s then .error (.unplaced (.duplicateField name) bytes)
    else
      match readColon bytes with
      | .error f => .error f
      | .ok rest => field.read s rest
  | none =>
    match readColon bytes with
    | .error f => .error f
    | .ok rest => (skipValue rest).map (s, ·)

/-- The value of the fields gathered before `rest`. -/
def build (r : Record σ α) (gathered : Except Fault (σ × List UInt8)) :
    Except Fault (α × List UInt8) :=
  match gathered with
  | .error f => .error f
  | .ok (s, rest) =>
    match r.finish s with
    | .ok a => .ok (a, rest)
    | .error cause => .error (.unplaced cause rest)

/-- Reads the items of an array into fields; `count` fields came before. -/
def readFields (r : Record σ α) : List (Field σ) → Nat → Bool → σ → Reader σ
  | [], _, _, s, bytes => .ok (s, bytes)
  | field :: fields, count, first, s, bytes =>
    match nextItem first bytes with
    | .error f => .error f
    | .ok none =>
      if field.optional then readFields r fields (count + 1) first s bytes
      else
        let expected := s!"struct {r.name} with {r.fields.length} elements"
        .error (.unplaced (.wrongLength count expected) (skipBlanks bytes))
    | .ok (some bytes) =>
      match field.read s bytes with
      | .error f => .error f
      | .ok (s, rest) => readFields r fields (count + 1) false s rest

/-- Reads a record. -/
def read (r : Record σ α) : Reader α := fun bytes =>
  match skipBlanks bytes with
  | [] => .error (.ahead (.cutOff .value) [])
  | b :: rest =>
    if b = bracketOpen then
      closeWith endArray (r.build (r.readFields r.fields 0 true r.empty rest))
    else if b = braceOpen then
      closeWith endObject
        (r.build (readMembers r.readMember (rest.length + 1) true r.empty rest))
    else .error (mismatch s!"struct {r.name}" (b :: rest))

end Record

/-! ### Choices -/

/-- The value of a name among the known ones. -/
def chooseName {α : Type} (known : List (String × α)) (name : String) : Except Cause α :=
  match known.lookup name with
  | some a => .ok a
  | none => .error (.unknownName name (known.map Prod.fst))

/-- Reads `null` where nothing else can stand. -/
def readNull (bytes : List UInt8) : Except Fault (List UInt8) :=
  match skipBlanks bytes with
  | [] => .error (.ahead (.cutOff .value) [])
  | b :: rest =>
    if b = letterN then readWord nullTail rest else .error (mismatch "unit" (b :: rest))

/-- Reads one of the known names. -/
def readChoice {α : Type} (known : List (String × α)) : Reader α := fun bytes =>
  let name := readTextAs "variant identifier" (chooseName known)
  match skipBlanks bytes with
  | [] => .error (.ahead (.cutOff .value) [])
  | b :: rest =>
    if b = quote then name (b :: rest)
    else if b = braceOpen then
      match name rest with
      | .error f => .error f
      | .ok (a, rest) =>
        match readColon rest with
        | .error f => .error f
        | .ok rest =>
          match readNull rest with
          | .error f => .error f
          | .ok rest =>
            match skipBlanks rest with
            | [] => .error (.here (.cutOff .object) [])
            | c :: more =>
              if c = braceClose then .ok (a, more) else .error (.here .expectedValue (c :: more))
    else .error (.ahead .expectedValue (b :: rest))

end RoomHub.Json
