/-!
# Switches

The switches of the program's command line and how they are shown.
-/

namespace RoomHub.CommandLine

/-- A switch. -/
inductive Switch where
  | host
  | port
  | secret
  | origin
  | capacity
  | help
  deriving DecidableEq, Repr

namespace Switch

/-- All switches. -/
def all : List Switch := [.host, .port, .secret, .origin, .capacity, .help]

/-- The long name of a switch. -/
def name : Switch → String
  | .host => "host"
  | .port => "port"
  | .secret => "jwt-secret"
  | .origin => "allowed-origin"
  | .capacity => "queue-capacity"
  | .help => "help"

/-- The letter of a switch that has one. -/
def letter? : Switch → Option Char
  | .host => some 'H'
  | .port => some 'p'
  | .help => some 'h'
  | _ => none

/-- The name of a switch's value; the switch for help has none. -/
def valueName? : Switch → Option String
  | .host => some "HOST"
  | .port => some "PORT"
  | .secret => some "JWT_SECRET"
  | .origin => some "ALLOWED_ORIGINS"
  | .capacity => some "QUEUE_CAPACITY"
  | .help => none

/-- Only origins can be given several times. -/
def repeats : Switch → Bool
  | .origin => true
  | _ => false

/-- The switch as it is shown. -/
def text (s : Switch) : String :=
  match s.valueName? with
  | some value => s!"--{s.name} <{value}>"
  | none => s!"--{s.name}"

/-- The switch of a long name. -/
def ofName? (name : String) : Option Switch := all.find? (·.name = name)

/-- The switch of a letter. -/
def ofLetter? (c : Char) : Option Switch := all.find? (·.letter? = some c)

end Switch

/-- The name of the program. -/
def program : String := "kyodo-server"

/-- The usage of the program; the secret is required.  The switches that were used are listed if there
are any. -/
def usage (used : List Switch) : String :=
  if used.isEmpty then s!"Usage: {program} [OPTIONS] {Switch.secret.text}"
  else s!"Usage: {program} " ++ " ".intercalate ((Switch.secret :: used).eraseDups.map Switch.text)

/-- The usage of a switch together with any of those that have a value. -/
def anyUsage (s : Switch) : String :=
  let others := (Switch.all.filter (·.valueName?.isSome)).map Switch.text
  s!"Usage: {program} {s.text} <" ++ "|".intercalate others ++ ">"

end RoomHub.CommandLine
