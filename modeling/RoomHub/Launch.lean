import RoomHub.CommandLine.Basic
import RoomHub.Log.Filter
import RoomHub.Server.Basic

/-!
# Launching the server

From a command line to the end of the program: what is printed, what is logged and the exit code.
The machine that the program runs on is a parameter.
-/

namespace RoomHub.Launch

open CommandLine

/-- What the program can do on a machine. -/
structure Machine where
  /-- The address that a host name stands for, as it is shown. -/
  address : String → String
  /-- Whether the machine has this address. -/
  hasAddress : String → Bool
  /-- Whether the program may listen on this port. -/
  allowsPort : Nat → Bool
  /-- The port that the program gets if it asks for this one, as it is shown. -/
  shownPort : Nat → String

/-- What makes a running server stop. -/
inductive Signal where
  | interrupt
  | terminate
  deriving DecidableEq, Repr

/-- What is logged about a signal. -/
def Signal.text : Signal → String
  | .interrupt => "Received Ctrl+C, shutting down"
  | .terminate => "Received SIGTERM, shutting down"

/-- How a program has run. -/
structure Outcome where
  code : Nat
  stdout : List String
  stderr : List String
  log : List Log.Entry
  deriving DecidableEq, Repr

/-- The exit code of a program that crashes. -/
def crashCode : Nat := 101

/-- Why a server cannot listen. -/
def bindFault? (m : Machine) (a : Arguments) : Option String :=
  if !m.allowsPort a.port then some "Permission denied (os error 13)"
  else if !m.hasAddress (m.address a.host) then
    some "Cannot assign requested address (os error 99)"
  else none

/-- The settings of the server for some arguments. -/
def settings (a : Arguments) : Settings :=
  { config := ConnectionConfig.withQueueCapacity {} a.capacity
    secret := a.secret
    origins := a.origins }

/-- An entry of the server. -/
def serverEntry (text : String) : Log.Entry := ⟨.info, "kyodo_server::ui::server", text⟩

/-- The entry of a notice that the server gives at its start. -/
def noticeEntry (n : Notice) : Log.Entry := ⟨n.level, "kyodo_server::ui::server", n.text⟩

/-- What a server logs from its start to its end. -/
def serverLog (m : Machine) (a : Arguments) (s : Server) (signal : Signal) : List Log.Entry :=
  let place := s!"{m.address a.host}:{m.shownPort a.port}"
  s.journal.map noticeEntry ++
    [serverEntry s!"Collaboration hub listening on {place}",
      serverEntry (s!"Connect to: ws://{place}/collaboration/" ++ "\x7broom_id\x7d"),
      serverEntry "Press Ctrl+C to shutdown gracefully",
      ⟨.info, "kyodo_server::ui::signal", signal.text⟩,
      serverEntry "Server shutdown complete"]

/-- Serves until the signal comes.  A server that cannot start has already warned of the origins that
it ignores. -/
def serve (m : Machine) (a : Arguments) (clock : Calendar.Instant) (now : Nat) (signal : Signal) :
    Outcome :=
  match bindFault? m a with
  | some why => ⟨1, [], [], [⟨.error, "kyodo_server", s!"Server error: {why}"⟩]⟩
  | none =>
    match Server.start (settings a) (.log (ChatLog.withCapacity ChatLog.defaultCapacity))
        (some clock) now with
    | .error _ => ⟨crashCode, [], [], (settings a).ignoredOrigins.map noticeEntry⟩
    | .ok s => ⟨0, [], [], serverLog m a s signal⟩

/-- The log filter of the program. -/
def filter (asked : Option String) : Except Log.Unsound Log.Filter :=
  Log.Filter.forProgram program "info" asked

/-- Runs the program.  It crashes over a filter with a severed part before it looks at its
arguments. -/
def run (m : Machine) (environmentSecret askedFilter : Option String) (clock : Calendar.Instant)
    (now : Nat) (signal : Signal) (arguments : List String) : Outcome :=
  match filter askedFilter with
  | .error _ => ⟨crashCode, [], [], []⟩
  | .ok shown =>
    let outcome : Outcome :=
      match CommandLine.read environmentSecret arguments with
      | .error .help => ⟨0, helpLines, [], []⟩
      | .error (.fault why) => ⟨2, [], why.lines, []⟩
      | .ok a => serve m a clock now signal
    { outcome with log := shown.select (Log.startEntry program :: outcome.log) }

end RoomHub.Launch
