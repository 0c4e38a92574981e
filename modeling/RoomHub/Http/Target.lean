import RoomHub.Text.Ascii

/-!
# Request targets

A request names what it is for by a path, by an address with a path, by an address alone or by a
star.  `Target.resource?` gives the path and the query of a sound target; an address does not matter.
-/

namespace RoomHub.Http.Target

open Text

/-- A character that may stand in an address. -/
def isAddressChar (c : Char) : Bool :=
  c.isAlphanum || "!#$%&'()*+,-./:;=?@[]_~".toList.contains c

/-- What has been read of an address. -/
structure Address where
  colons : Nat := 0
  opened : Bool := false
  closed : Bool := false
  percent : Bool := false
  /-- Whether an at sign was the last character. -/
  atSign : Bool := false

/-- How many colons there may be since the last at sign or bracket. -/
def maxColons : Nat := 8

/-- Reads a character of an address.  What stands before an at sign or in brackets may have colons and
percent signs. -/
def Address.read (a : Address) (c : Char) : Option Address :=
  if !isAddressChar c then none
  else
    let a := { a with atSign := false }
    if c = ':' then if maxColons ≤ a.colons then none else some { a with colons := a.colons + 1 }
    else if c = '[' then if a.percent || a.opened then none else some { a with opened := true }
    else if c = ']' then
      if !a.opened || a.closed then none
      else some { a with closed := true, colons := 0, percent := false }
    else if c = '@' then some { a with colons := 0, percent := false, atSign := true }
    else if c = '%' then some { a with percent := true }
    else some a

/-- Whether an address is complete: it has at most one colon, before the port. -/
def Address.isComplete (a : Address) : Bool :=
  a.opened = a.closed && a.colons ≤ 1 && !a.atSign && !a.percent

/-- Whether a text is a sound address. -/
def isAddress (cs : List Char) : Bool :=
  ((cs.foldlM Address.read {}).map Address.isComplete).getD false

/-- A character of a scheme. -/
def isSchemeChar (c : Char) : Bool :=
  c.isAlphanum || c = '+' || c = '-' || c = '.'

/-- What follows the scheme of a target; nothing if it has none, and a fault if it is too long. -/
def afterScheme (cs : List Char) : Except Unit (Option (List Char)) :=
  let scheme := cs.takeWhile isSchemeChar
  match cs.dropWhile isSchemeChar with
  | ':' :: '/' :: '/' :: rest =>
    if cs.length ≤ 3 then .ok none else if 64 < scheme.length then .error () else .ok (some rest)
  | _ => .ok none

/-- A character of a path, besides those beyond ASCII. -/
def isPathChar (c : Char) : Bool :=
  '!' ≤ c && c ≠ '<' && c ≠ '>' && c.toNat ≠ 0x60 && c ≠ '\x7f'

/-- A character of a query, besides those beyond ASCII. -/
def isQueryChar (c : Char) : Bool :=
  '!' ≤ c && c ≠ '"' && c ≠ '<' && c ≠ '>' && c ≠ '\x7f'

/-- A path and a query; a fragment does not count. -/
def checkResource (cs : List Char) : Option (List Char) :=
  let resource := cs.takeWhile (· ≠ '#')
  let path := resource.takeWhile (· ≠ '?')
  let query := (resource.dropWhile (· ≠ '?')).drop 1
  if path.all isPathChar && query.all isQueryChar then some resource else none

/-- A character that ends an address. -/
def endsAddress (c : Char) : Bool := c = '/' || c = '?' || c = '#'

/-- The path and the query of a target that is an address after a scheme. -/
def addressed? (cs : List Char) : Option (List Char) :=
  let address := cs.takeWhile (!endsAddress ·)
  if address.isEmpty || !isAddress address then none
  else
    (checkResource (cs.dropWhile (!endsAddress ·))).map fun resource =>
      if resource.head? = some '/' then resource else '/' :: resource

/-- The path and the query of a target, unless it is unsound.  An address alone has neither. -/
def resource? (cs : List Char) : Option (List Char) :=
  if cs.isEmpty then none
  else if cs = ['*'] then some cs
  else if cs.head? = some '/' then checkResource cs
  else
    match afterScheme cs with
    | .error () => none
    | .ok (some rest) => addressed? rest
    | .ok none =>
      if cs.any endsAddress || !isAddress cs then none else some []

end RoomHub.Http.Target
