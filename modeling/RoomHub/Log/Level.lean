/-!
# Levels

How important an event in a log is, and up to which level events are shown.
-/

namespace RoomHub

/-- How important an event is. -/
inductive Level where
  | error
  | warn
  | info
  | debug
  deriving DecidableEq, Repr

/-- The level's name in a log. -/
def Level.name : Level → String
  | .error => "ERROR"
  | .warn => "WARN"
  | .info => "INFO"
  | .debug => "DEBUG"

/-- Up to which level events are shown. -/
inductive Verbosity where
  | off
  | error
  | warn
  | info
  | debug
  | trace
  deriving DecidableEq, Repr

namespace Verbosity

/-- The name of a verbosity. -/
def name : Verbosity → String
  | .off => "off"
  | .error => "error"
  | .warn => "warn"
  | .info => "info"
  | .debug => "debug"
  | .trace => "trace"

/-- All verbosities; each shows more than those before it. -/
def all : List Verbosity := [.off, .error, .warn, .info, .debug, .trace]

/-- The number of a verbosity. -/
def rank : Verbosity → Nat
  | .off => 0
  | .error => 1
  | .warn => 2
  | .info => 3
  | .debug => 4
  | .trace => 5

/-- The least verbosity that shows a level. -/
def showing : Level → Verbosity
  | .error => .error
  | .warn => .warn
  | .info => .info
  | .debug => .debug

/-- Whether events of a level are shown. -/
def shows (v : Verbosity) (level : Level) : Bool := (showing level).rank ≤ v.rank

end Verbosity
end RoomHub
