import RoomHub.CommandLine.Fault
import RoomHub.Text.Ascii
import RoomHub.Text.Integer
import RoomHub.Text.Similarity

/-!
# The command line

`read` takes the arguments of the program one after the other.  The value of a switch may be the next
argument; such a value is looked at only when the next switch comes or the arguments end, so that of
two faults it may be the later one that is reported.
-/

namespace RoomHub.CommandLine

open Text

/-- What the program is started with. -/
structure Arguments where
  host : String
  port : Nat
  secret : String
  origins : List String
  capacity : Nat
  deriving DecidableEq, Repr

/-- Why the arguments are not read to their end. -/
inductive Stop where
  | help
  | fault (why : Fault)
  deriving DecidableEq, Repr

/-- What is known of the arguments read so far. -/
structure Progress where
  /-- The switches in the order of their first use. -/
  used : List Switch := []
  /-- The values in the order in which they were accepted. -/
  values : List (Switch × String) := []
  /-- A switch that waits for its value, or whose value was not looked at yet. -/
  pending : Option (Switch × Option String) := none

/-- Why a value does not suit its switch. -/
def invalidity? (s : Switch) (value : String) : Option String :=
  match s with
  | .port =>
    match readSigned value with
    | .error e => some e.message
    | .ok n => if 0 ≤ n ∧ n ≤ 65535 then none else some s!"{n} is not in 0..=65535"
  | .capacity =>
    match readUnsigned value with
    | .error e => some e.message
    | .ok _ => none
  | _ => none

namespace Progress

/-- Notes that a switch is used. -/
def use (p : Progress) (s : Switch) : Progress :=
  if p.used.contains s then p else { p with used := p.used ++ [s] }

/-- Gives a switch its value.  A switch that is used once too often is forgotten. -/
def accept (p : Progress) (s : Switch) (value : String) : Except Fault Unit × Progress :=
  if p.used.contains s && !s.repeats then
    (.error (.repeated s), { p with used := p.used.filter (· ≠ s) })
  else
    match invalidity? s value with
    | some why => (.error (.valueInvalid value s why), p.use s)
    | none => (.ok (), { p.use s with values := p.values ++ [(s, value)] })

/-- Looks at the pending value. -/
def settle (p : Progress) : Except Fault Unit × Progress :=
  let q := { p with pending := none }
  match p.pending with
  | none => (.ok (), q)
  | some (s, none) => (.error (.valueMissing s), q)
  | some (s, some value) => q.accept s value

/-- Settles and goes on if there is no fault. -/
def andThen (p : Progress) (next : Progress → Except Stop Progress) : Except Stop Progress :=
  match p.settle with
  | (.error why, _) => .error (.fault why)
  | (.ok (), p) => next p

/-- Reports a fault at the present argument.  A fault of the pending value is passed over, and only
the switches used so far matter. -/
def blame (p : Progress) (why : List Switch → Fault) : Except Stop Progress :=
  .error (.fault (why p.settle.2.used))

/-- Takes a switch, with its value if that belongs to the same argument. -/
def takeSwitch (p : Progress) (s : Switch) (value : Option String) : Except Stop Progress :=
  p.andThen fun p =>
    if s = .help then .error .help
    else
      match value with
      | none => .ok { p with pending := some (s, none) }
      | some value =>
        match p.accept s value with
        | (.error why, _) => .error (.fault why)
        | (.ok (), p) => .ok p

/-- Takes an argument that begins with two dashes. -/
def takeLong (p : Progress) (body : List Char) : Except Stop Progress :=
  let name := String.ofList (body.takeWhile (· ≠ '='))
  let value :=
    match body.dropWhile (· ≠ '=') with
    | [] => none
    | _ :: value => some (String.ofList value)
  match Switch.ofName? name, value with
  | some .help, some value => p.blame fun _ => .unneeded value .help p.used.isEmpty
  | some s, _ => p.takeSwitch s value
  | none, _ =>
    let meant := (mostSimilar name (Switch.all.map Switch.name)).bind Switch.ofName?
    p.blame fun used => .unexpected s!"--{name}" meant (used ++ meant.toList)

/-- Takes an argument that begins with one dash: a letter and perhaps a value. -/
def takeShort (p : Progress) (letter : Char) (rest : List Char) : Except Stop Progress :=
  let value :=
    match rest with
    | [] => none
    | '=' :: value => some (String.ofList value)
    | value => some (String.ofList value)
  match Switch.ofLetter? letter with
  | some s => p.takeSwitch s value
  | none => p.blame fun _ => .unexpected s!"-{letter}" none []

/-- Takes one argument. -/
def take (p : Progress) (argument : String) : Except Stop Progress :=
  match argument.toList, p.pending with
  | '-' :: '-' :: body, _ => p.takeLong body
  | '-' :: letter :: rest, _ => p.takeShort letter rest
  | _, some (s, none) => .ok { p with pending := some (s, some argument) }
  | _, _ => p.blame fun _ => .unexpected argument none []

/-- Takes all arguments.  After two dashes no argument means anything. -/
def takeAll (p : Progress) : List String → Except Stop Progress
  | [] => p.andThen .ok
  | argument :: rest =>
    if argument = "--" then
      match rest with
      | [] => p.andThen .ok
      | extra :: _ => p.blame fun _ => .unexpected extra none []
    else
      match p.take argument with
      | .ok p => takeAll p rest
      | .error stop => .error stop

/-- The last value of a switch. -/
def value? (p : Progress) (s : Switch) : Option String :=
  (p.values.reverse).lookup s

/-- All values of a switch. -/
def allValues (p : Progress) (s : Switch) : List String :=
  (p.values.filter (·.1 = s)).map (·.2)

end Progress

/-- The arguments, with the secret of the environment and the defaults where nothing is given. -/
def finish (environmentSecret : Option String) (p : Progress) : Except Stop Arguments :=
  match (p.value? .secret).or environmentSecret with
  | none => .error (.fault (.secretMissing p.used))
  | some secret =>
    let origins := p.allValues .origin
    .ok
      { host := (p.value? .host).getD "127.0.0.1"
        port := ((p.value? .port).bind fun v => (readSigned v).toOption).getD 8080 |>.toNat
        secret := secret
        origins := if origins.isEmpty then ["http://localhost:3000"] else origins
        capacity := ((p.value? .capacity).bind fun v => (readUnsigned v).toOption).getD 256 }

/-- Reads the arguments of the program. -/
def read (environmentSecret : Option String) (arguments : List String) : Except Stop Arguments :=
  match Progress.takeAll {} arguments with
  | .error stop => .error stop
  | .ok p => finish environmentSecret p

/-- The help text. -/
def helpLines : List String :=
  ["Per-room broadcast hub for collaborative editing",
    "",
    usage [],
    "",
    "Options:",
    "  -H, --host <HOST>",
    "          Host address to bind the server to [default: 127.0.0.1]",
    "  -p, --port <PORT>",
    "          Port number to bind the server to [default: 8080]",
    "      --jwt-secret <JWT_SECRET>",
    "          HMAC secret used to verify HS256 access tokens [env: JWT_SECRET]",
    "      --allowed-origin <ALLOWED_ORIGINS>",
    "          Origin allowed by CORS (repeatable) [default: http://localhost:3000]",
    "      --queue-capacity <QUEUE_CAPACITY>",
    "          Capacity of each connection's outbound queue [default: 256]",
    "  -h, --help",
    "          Print help"]

end RoomHub.CommandLine
