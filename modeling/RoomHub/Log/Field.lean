import RoomHub.Decimal.Extended
import RoomHub.Log.Pattern
import RoomHub.Text.Ascii
import RoomHub.Text.Integer

/-!
# Fields of events

A filter can ask for events that have a certain field, perhaps with a certain value.  The value is a
truth value, a number or else a pattern, in that order.
-/

namespace RoomHub.Log

open Text Decimal

/-- What the value of a field is compared with. -/
inductive FieldValue where
  | flag (b : Bool)
  | natural (n : Nat)
  | integer (n : Int)
  | number (x : Extended)
  | pattern (s : String)
  deriving DecidableEq, Repr

namespace FieldValue

/-- Reads a value; a text of no other kind has to be a pattern. -/
def ofText? (s : String) : Option FieldValue :=
  if s = "true" then some (.flag true)
  else if s = "false" then some (.flag false)
  else
    match readUnsigned s, readSigned s, Extended.ofText? s with
    | .ok n, _, _ => some (.natural n)
    | _, .ok n, _ => some (.integer n)
    | _, _, some x => some (.number x)
    | _, _, none => if isPattern s then some (.pattern s) else none

/-- The text of a value. -/
def text : FieldValue → String
  | .flag b => if b then "true" else "false"
  | .natural n => toString n
  | .integer n => toString n
  | .number x => x.text
  | .pattern s => s

/-- Equality of values; numbers of one kind are compared as numbers. -/
def same : FieldValue → FieldValue → Bool
  | .number x, .number y => x.same y
  | x, y => x = y

end FieldValue

/-- A field that an event has, perhaps with a value. -/
structure Field where
  name : String
  value : Option FieldValue
  deriving DecidableEq, Repr

namespace Field

/-- Reads a field: a name and, after an equals sign, a value.  What a second equals sign begins is
dropped. -/
def ofText? (s : String) : Option Field :=
  match pieces '=' s.toList with
  | [] => none
  | [name] => some ⟨String.ofList name, none⟩
  | name :: value :: _ =>
    (FieldValue.ofText? (String.ofList value)).map fun v => ⟨String.ofList name, some v⟩

/-- The text of a field. -/
def text (f : Field) : String :=
  match f.value with
  | none => f.name
  | some v => f.name ++ "=" ++ v.text

/-- Equality of fields. -/
def same (a b : Field) : Bool :=
  a.name = b.name &&
    match a.value, b.value with
    | some v, some w => v.same w
    | none, none => true
    | _, _ => false

end Field
end RoomHub.Log
