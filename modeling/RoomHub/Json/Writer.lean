import RoomHub.Json.Text

/-!
# Writing values

JSON without blanks, as characters.  Members are written in the order given.
-/

namespace RoomHub.Json

/-- Pieces with a separator between them. -/
def separated (separator : Char) : List (List Char) → List Char
  | [] => []
  | [piece] => piece
  | piece :: pieces => piece ++ separator :: separated separator pieces

/-- A text. -/
def writeText (s : String) : List Char := quoteChars s.toList

/-- A whole number. -/
def writeInteger (n : Int) : List Char := (toString n).toList

/-- `true` or `false`. -/
def writeFlag (b : Bool) : List Char := (toString b).toList

/-- An array of written values. -/
def writeArray (items : List (List Char)) : List Char :=
  '[' :: separated ',' items ++ [']']

/-- An object of names and written values. -/
def writeObject (members : List (String × List Char)) : List Char :=
  '\x7b' :: separated ',' (members.map fun (name, value) => writeText name ++ ':' :: value) ++ ['\x7d']

/-- A member that is left out when it is absent. -/
def optionalMember (name : String) : Option (List Char) → List (String × List Char)
  | some value => [(name, value)]
  | none => []

end RoomHub.Json
