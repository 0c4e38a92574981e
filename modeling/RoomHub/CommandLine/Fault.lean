import RoomHub.CommandLine.Switch
import RoomHub.Text.Terminal

/-!
# Faults of a command line

What can be wrong with a command line, and what the program says about it.  What the user has written
is shown without terminal controls.
-/

namespace RoomHub.CommandLine

/-- What is wrong with a command line. -/
inductive Fault where
  /-- An argument that means nothing, perhaps a misspelt switch. -/
  | unexpected (argument : String) (meant : Option Switch) (used : List Switch)
  /-- A value for a switch that takes none; no other switch was read before. -/
  | unneeded (value : String) (switch : Switch) (isFirst : Bool)
  | valueMissing (switch : Switch)
  | valueInvalid (value : String) (switch : Switch) (why : String)
  | repeated (switch : Switch)
  /-- There is no secret. -/
  | secretMissing (used : List Switch)
  deriving DecidableEq, Repr

namespace Fault

open Text (Terminal.plain)

/-- What is said about a fault. -/
def description : Fault → List String
  | .unexpected argument meant used =>
    [s!"error: unexpected argument '{Terminal.plain argument}' found", ""] ++
      (match meant with
        | some s => [s!"  tip: a similar argument exists: '--{s.name}'", ""]
        | none => []) ++ [usage used]
  | .unneeded value switch isFirst =>
    [s!"error: unexpected value '{Terminal.plain value}' for '{switch.text}' found; " ++
      "no more were expected", "", if isFirst then usage [switch] else anyUsage switch]
  | .valueMissing switch =>
    [s!"error: a value is required for '{switch.text}' but none was supplied"]
  | .valueInvalid value switch why =>
    [s!"error: invalid value '{Terminal.plain value}' for '{switch.text}': {why}"]
  | .repeated switch =>
    [s!"error: the argument '{switch.text}' cannot be used multiple times", "", usage []]
  | .secretMissing used =>
    ["error: the following required arguments were not provided:", s!"  {Switch.secret.text}", "",
      usage (.secret :: used)]

/-- The lines that the program prints. -/
def lines (f : Fault) : List String :=
  f.description ++ ["", "For more information, try '--help'."]

end Fault
end RoomHub.CommandLine
