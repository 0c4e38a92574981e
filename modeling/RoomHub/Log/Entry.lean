import RoomHub.Log.Level
import RoomHub.Text.Ascii
import RoomHub.Text.Blank
import RoomHub.Text.Digits

/-!
# Log entries

An entry is printed with its level and its target.  Characters that could control a terminal are
printed as escapes.
-/

namespace RoomHub.Log

open Text

/-- An event in the log of a program. -/
structure Entry where
  level : Level
  target : String
  text : String
  deriving DecidableEq, Repr

/-- A character as it is printed: a few of the controls and all those beyond ASCII are escaped. -/
def shownChar (c : Char) : List Char :=
  if ['\x1b', '\x07', '\x08', '\x0c', '\x7f'].contains c then
    '\\' :: 'x' :: fixedHex 2 c.toNat
  else if 0x80 ≤ c.toNat ∧ c.toNat ≤ 0x9f then
    ['\\', 'u', '\x7b'] ++ fixedHex 2 c.toNat ++ ['\x7d']
  else [c]

/-- The lines of an entry, without blanks around them. -/
def Entry.lines (e : Entry) : List String :=
  let text := s!"{e.level.name} {e.target}: ".toList ++ e.text.toList.flatMap shownChar
  ((pieces '\n' text).map fun line => String.ofList (trimChars line)).filter (· ≠ "")

/-- The entry that tells which program has set up its log. -/
def startEntry (program : String) : Entry :=
  ⟨.debug, "kyodo_shared::logger", s!"Logger initialized for {program}"⟩

end RoomHub.Log
