import RoomHub.Text.Alphanumeric
import RoomHub.Text.Blank
import RoomHub.Text.Digits

/-!
# Patterns

The value of a field can be asked to match a pattern, a regular expression.  `isPattern` says which
texts are patterns.  There are no tables of Unicode properties, so the families of characters and the
borders of words exist only where bytes are matched, and a case that does not matter as well; there
in turn nothing may match a byte that is no ASCII character.  A pattern comes from between braces and
has no closing brace, so nothing that needs one can be written.
-/

namespace RoomHub.Log.Pattern

open Text

/-- The modes in which a pattern is read.  A group can set them for itself. -/
structure Modes where
  /-- Whether characters are matched, and not bytes. -/
  unicode : Bool := true
  /-- Whether the case of letters does not matter. -/
  anyCase : Bool := false
  /-- Whether blanks and comments between the parts mean nothing. -/
  spaced : Bool := false
  deriving DecidableEq, Repr

/-- Drops blanks and comments; a comment goes from `#` to the end of the line. -/
def skipSpace (inComment : Bool) : List Char → List Char
  | [] => []
  | c :: cs =>
    if inComment then skipSpace (c ≠ '\n') cs
    else if isBlank c then skipSpace false cs
    else if c = '#' then skipSpace true cs
    else c :: cs

/-- Drops what means nothing before the next part. -/
def Modes.skip (m : Modes) (cs : List Char) : List Char :=
  if m.spaced then skipSpace false cs else cs

/-! ### Escapes -/

/-- A part that stands for itself, with no parts inside. -/
inductive Item where
  /-- One character, perhaps given as a byte. -/
  | literal (c : Char) (isByte : Bool)
  /-- The digits, the blanks or the characters of words, or all others. -/
  | family (others : Bool)
  /-- The border of a word. -/
  | border
  /-- The beginning or the end of the text. -/
  | edge
  deriving DecidableEq, Repr

/-- Reads hexadecimal digits after the number `n`. -/
def readHex (m : Modes) : Nat → Nat → List Char → Option (Nat × List Char)
  | 0, n, cs => some (n, cs)
  | count + 1, n, cs =>
    match m.skip cs with
    | c :: rest =>
      if c.toNat < 0x80 then
        (hexValue? c.toUInt8).bind fun digit => readHex m count (16 * n + digit) rest
      else none
    | [] => none

/-- Reads a character given by its number in hexadecimal. -/
def readNumbered (m : Modes) (count : Nat) (cs : List Char) : Option (Item × List Char) :=
  (readHex m count 0 cs).bind fun (n, rest) =>
    if n.isValidChar then some (.literal (Char.ofNat n) (count = 2), rest) else none

/-- The control characters that have a letter. -/
def controlLetters : List (Char × Char) :=
  [('a', '\x07'), ('f', '\x0c'), ('t', '\t'), ('n', '\n'), ('r', '\r'), ('v', '\x0b')]

/-- Whether a character can be escaped to stand for itself. -/
def isEscapable (c : Char) : Bool :=
  c.toNat < 0x80 && !c.isAlphanum && c ≠ '<' && c ≠ '>'

/-- Reads an escape after its backslash. -/
def readEscape (m : Modes) : List Char → Option (Item × List Char)
  | [] => none
  | c :: rest =>
    if c = 'x' then readNumbered m 2 rest
    else if c = 'u' then readNumbered m 4 rest
    else if c = 'U' then readNumbered m 8 rest
    else if ['d', 's', 'w'].contains c then some (.family false, rest)
    else if ['D', 'S', 'W'].contains c then some (.family true, rest)
    else if ['b', 'B', '<', '>'].contains c then some (.border, rest)
    else if c = 'A' ∨ c = 'z' then some (.edge, rest)
    else if isEscapable c then some (.literal c false, rest)
    else (controlLetters.lookup c).map fun control => (.literal control false, rest)

/-- Whether a part can stand outside of classes. -/
def Modes.allows (m : Modes) : Item → Bool
  | .literal c isByte => if m.unicode then !m.anyCase else !isByte || c.toNat < 0x80
  | .family others => !m.unicode && !others
  | .border => !m.unicode
  | .edge => true

/-! ### Classes -/

/-- The classes of ASCII characters that have names. -/
def namedClasses : List String :=
  ["alnum", "alpha", "ascii", "blank", "cntrl", "digit", "graph", "lower", "print", "punct", "space",
    "upper", "word", "xdigit"]

/-- Reads a named class after its opening bracket: whether it is negated, and the rest. -/
def namedClass? : List Char → Option (Bool × List Char)
  | ':' :: cs =>
    let (negated, cs) := match cs with
      | '^' :: rest => (true, rest)
      | rest => (false, rest)
    match cs.dropWhile (· ≠ ':') with
    | _ :: ']' :: rest =>
      if namedClasses.contains (String.ofList (cs.takeWhile (· ≠ ':'))) then some (negated, rest)
      else none
    | _ => none
  | _ => none

/-- Whether a class can stand here. -/
def Modes.allowsClass (m : Modes) (negated : Bool) : Bool :=
  if m.unicode then !m.anyCase else !negated

/-- Whether a part can stand in a class. -/
def Modes.allowsMember (m : Modes) : Item → Bool
  | .literal c _ => m.unicode || c.toNat < 0x80
  | .family others => !m.unicode && !others
  | .border | .edge => false

/-- Drops the dashes at the beginning of a class, at most `fuel` of them. -/
def dropDashes (m : Modes) : Nat → List Char → List Char
  | fuel + 1, '-' :: rest => dropDashes m fuel (m.skip rest)
  | _, cs => cs

/-- Reads the beginning of a class after its opening bracket: a sign of negation, then dashes or a
closing bracket that stand for themselves. -/
def openClass (m : Modes) (cs : List Char) : Option (List Char) :=
  let (negated, cs) := match m.skip cs with
    | '^' :: rest => (true, m.skip rest)
    | rest => (false, rest)
  if m.allowsClass negated then
    match cs with
    | ']' :: rest => some rest
    | _ => some (dropDashes m cs.length cs)
  else none

/-- Reads a character of a class or an escape. -/
def readMember (m : Modes) : List Char → Option (Item × List Char)
  | [] => none
  | '\\' :: rest => readEscape m rest
  | c :: rest => some (.literal c false, rest)

/-- Reads a member of a class or a range of members. -/
def readRange (m : Modes) (cs : List Char) : Option (List Char) :=
  (readMember m cs).bind fun (first, rest) =>
    if m.allowsMember first then
      match m.skip rest with
      | '-' :: more =>
        match m.skip more with
        | ']' :: _ => some ('-' :: more)
        | '-' :: _ => some ('-' :: more)
        | more =>
          (readMember m more).bind fun (last, rest) =>
            match first, last with
            | .literal a _, .literal b _ =>
              if m.allowsMember last && a.toNat ≤ b.toNat then some rest else none
            | _, _ => none
      | rest => some rest
    else none

/-- Reads a class after its beginning.  It may have classes inside, `depth` of which are open. -/
def readClass (m : Modes) : Nat → Nat → List Char → Option (List Char)
  | 0, _, _ => none
  | fuel + 1, depth, cs =>
    match m.skip cs with
    | '[' :: rest =>
      match namedClass? rest with
      | some (negated, rest) => if m.allowsClass negated then readClass m fuel depth rest else none
      | none => (openClass m rest).bind (readClass m fuel (depth + 1))
    | ']' :: rest => if depth = 0 then some rest else readClass m fuel (depth - 1) rest
    | '&' :: '&' :: rest => readClass m fuel depth rest
    | '-' :: '-' :: rest => readClass m fuel depth rest
    | '~' :: '~' :: rest => readClass m fuel depth rest
    | cs => (readRange m cs).bind (readClass m fuel depth)

/-! ### Groups -/

/-- Sets the mode that a letter stands for. -/
def Modes.switch (m : Modes) (letter : Char) (on : Bool) : Modes :=
  if letter = 'u' then { m with unicode := on }
  else if letter = 'i' then { m with anyCase := on }
  else if letter = 'x' then { m with spaced := on }
  else m

/-- The letters of modes; three of them do not change which texts are patterns. -/
def modeLetters : List Char := ['i', 'm', 's', 'U', 'u', 'R', 'x']

/-- Reads the letters of modes before a colon or a closing parenthesis.  Those after a minus sign are
switched off; nothing comes twice, and the minus sign is not the last. -/
def readModes (seen : List Char) (m : Modes) : List Char → Option (Modes × List Char)
  | [] => none
  | c :: rest =>
    if c = ':' ∨ c = ')' then if seen.head? = some '-' then none else some (m, c :: rest)
    else if seen.contains c then none
    else if c = '-' then readModes (c :: seen) m rest
    else if modeLetters.contains c then
      readModes (c :: seen) (m.switch c (!seen.contains '-')) rest
    else none

/-- A character with which the name of a group can begin. -/
def isNameStart (c : Char) : Bool := c = '_' || (isAlphanumeric c && !c.isDigit)

/-- A character in the name of a group. -/
def isNamePart (c : Char) : Bool :=
  c = '_' || c = '.' || c = '[' || c = ']' || isAlphanumeric c

/-- What has been read of a pattern. -/
structure State where
  /-- The modes here. -/
  modes : Modes := {}
  /-- The modes around the groups that are open, the innermost first. -/
  outer : List Modes := []
  /-- Whether there is a part that can be repeated. -/
  repeatable : Bool := false
  /-- The names of the groups. -/
  names : List String := []
  deriving DecidableEq, Repr

/-- Opens a group. -/
def State.enter (s : State) (modes : Modes) : State :=
  { s with modes := modes, outer := s.modes :: s.outer, repeatable := false }

/-- Reads the name of a group. -/
def readName (s : State) (cs : List Char) : Option (State × List Char) :=
  let name := cs.takeWhile (· ≠ '>')
  match name, cs.dropWhile (· ≠ '>') with
  | c :: more, _ :: rest =>
    if isNameStart c && more.all isNamePart && !s.names.contains (String.ofList name) then
      some ({ s.enter s.modes with names := String.ofList name :: s.names }, rest)
    else none
  | _, _ => none

/-- Reads the beginning of a group after its parenthesis, or modes that hold from here on. -/
def readGroup (s : State) (cs : List Char) : Option (State × List Char) :=
  match s.modes.skip cs with
  | '?' :: 'P' :: '<' :: rest => readName s rest
  | '?' :: '<' :: rest => readName s rest
  | '?' :: ')' :: _ => none
  | '?' :: rest =>
    (readModes [] s.modes rest).map fun (modes, rest) =>
      (if rest.head? = some ':' then s.enter modes else { s with modes := modes, repeatable := false },
        rest.drop 1)
  | rest => some (s.enter s.modes, rest)

/-- Closes a group. -/
def State.leave (s : State) : Option State :=
  match s.outer with
  | modes :: outer => some { s with modes := modes, outer := outer, repeatable := true }
  | [] => none

/-- Takes a part that has been read. -/
def State.take (s : State) (part : Option (Item × List Char)) : Option (State × List Char) :=
  part.bind fun (item, rest) =>
    if s.modes.allows item then some ({ s with repeatable := true }, rest) else none

/-- Reads the next part. -/
def readPart (s : State) : List Char → Option (State × List Char)
  | [] => none
  | c :: rest =>
    if c = '(' then readGroup s rest
    else if c = ')' then s.leave.map fun s => (s, rest)
    else if c = '|' then some ({ s with repeatable := false }, rest)
    else if c = '[' then
      (openClass s.modes rest).bind fun members =>
        (readClass s.modes (rest.length + 1) 0 members).map fun rest =>
          ({ s with repeatable := true }, rest)
    else if c = '?' ∨ c = '*' ∨ c = '+' then
      if s.repeatable then some (s, if rest.head? = some '?' then rest.drop 1 else rest) else none
    else if c = '\x7b' then none
    else if c = '\\' then s.take (readEscape s.modes rest)
    else if c = '.' then
      if s.modes.unicode then some ({ s with repeatable := true }, rest) else none
    else if c = '^' ∨ c = '$' then s.take (some (.edge, rest))
    else s.take (some (.literal c false, rest))

/-- Whether what is left of a pattern can be read to its end, with every group closed. -/
def isSound : Nat → State → List Char → Bool
  | 0, _, _ => false
  | fuel + 1, s, cs =>
    match s.modes.skip cs with
    | [] => s.outer.isEmpty
    | cs =>
      match readPart s cs with
      | some (s, rest) => isSound fuel s rest
      | none => false

end Pattern

/-- Whether a text is a pattern. -/
def isPattern (s : String) : Bool :=
  Pattern.isSound (s.toList.length + 1) {} s.toList

end RoomHub.Log
