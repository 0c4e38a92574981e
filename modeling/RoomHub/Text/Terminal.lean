import RoomHub.Text.Utf8

/-!
# Terminal controls

A text that a user has given is shown without the characters and sequences that control a terminal:
`plain` keeps what a terminal would print, and blanks.

A sequence is opened by ESC.  A line break or a tab in the middle of a sequence is shown, and so is what
follows it, up to the next control.
-/

namespace RoomHub.Text.Terminal

/-- Where the reading of a text stands. -/
inductive Mode where
  /-- Outside of all sequences. -/
  | ground
  | escape
  | escapeTail
  /-- In a control sequence, which a letter ends. -/
  | control
  | deviceStart
  | deviceNumbers
  | deviceTail
  /-- In a string, which a string terminator ends. -/
  | string
  /-- In a command for the operating system, which a bell ends. -/
  | command
  deriving DecidableEq, Repr

/-- Whether a character is a blank of ASCII other than the space. -/
def isBreak (c : Char) : Bool := ['\t', '\n', '\x0c', '\r'].contains c

/-- The mode after ESC and another character. -/
def Mode.open (c : Char) : Mode :=
  if c = '[' then .control
  else if c = ']' then .command
  else if c = 'P' then .deviceStart
  else if c = 'X' ∨ c = '^' ∨ c = '_' then .string
  else if ' ' ≤ c ∧ c ≤ '/' then .escapeTail
  else if '0' ≤ c ∧ c ≤ '~' then .ground
  else .escape

/-- The mode after a character of a device control sequence. -/
def Mode.device (m : Mode) (c : Char) : Mode :=
  if '@' ≤ c ∧ c ≤ '~' then .string
  else if ' ' ≤ c ∧ c ≤ '/' then .deviceTail
  else if '0' ≤ c ∧ c ≤ '?' then
    if m = .deviceStart then .deviceNumbers
    else if m = .deviceNumbers ∧ c ≤ ';' then .deviceNumbers
    else .string
  else m

/-- The mode after a character. -/
def Mode.next (m : Mode) (c : Char) : Mode :=
  if c = '\x18' ∨ c = '\x1a' then .ground
  else if c = '\x1b' then .escape
  else
    match m with
    | .ground => .ground
    | .escape => .open c
    | .escapeTail => if '0' ≤ c ∧ c ≤ '~' then .ground else .escapeTail
    | .control => if '@' ≤ c ∧ c ≤ '~' then .ground else .control
    | .deviceStart | .deviceNumbers | .deviceTail => m.device c
    | .string => if (Utf8.encodeChar c).contains 0x9c then .ground else .string
    | .command => if c = '\x07' then .ground else .command

/-- Whether a character is shown outside of all sequences. -/
def isShown (c : Char) : Bool :=
  isBreak c || (' ' ≤ c && c ≠ '\x7f')

/-- Whether a character is shown where the text is searched for the end of a sequence. -/
def Mode.shows (m : Mode) (c : Char) : Bool :=
  match m with
  | .ground => isShown c
  | .escape | .escapeTail | .control => isBreak c
  | _ => false

/-- The characters that are shown.  While `showing`, every character that can be shown is, and the mode
that the text was in is kept; a character beyond ASCII ends it. -/
def plainFrom (m : Mode) (showing : Bool) : List Char → List Char
  | [] => []
  | c :: cs =>
    if showing && isShown c then
      c :: plainFrom (if c.toNat < 0x80 then m else .ground) true cs
    else if m.shows c then c :: plainFrom m true cs
    else plainFrom (m.next c) false cs

/-- A text without what controls a terminal. -/
def plain (s : String) : String :=
  String.ofList (plainFrom .ground false s.toList)

end RoomHub.Text.Terminal
