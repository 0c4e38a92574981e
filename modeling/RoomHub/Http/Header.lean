import RoomHub.Text.Ascii

/-!
# Headers

Names are in lower case.  Of several headers of one name the first one counts.
-/

namespace RoomHub.Http

/-- Header names, in lower case, and values. -/
abbrev Headers := List (String × String)

/-- A character that may stand in the value of a header. -/
def isValueChar (c : Char) : Bool :=
  (0x20 ≤ c.toNat && c.toNat != 0x7f) || c = '\t'

/-- A text that may be the value of a header. -/
def isValue (s : String) : Bool := s.toList.all isValueChar

/-- A value that can be taken as text: printable ASCII and tabs only. -/
def isPlainValue (s : String) : Bool :=
  s.toList.all fun c => (0x20 ≤ c.toNat && c.toNat < 0x7f) || c = '\t'

end RoomHub.Http
