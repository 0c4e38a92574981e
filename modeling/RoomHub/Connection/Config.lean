import RoomHub.Decimal.Power

/-!
# Connection settings

Periods in milliseconds, the greatest size of a frame's payload in bytes, and the number of messages
that may wait for a connection.
-/

namespace RoomHub

/-- The settings shared by all connections of a server. -/
structure ConnectionConfig where
  /-- The time between two pings. -/
  pingPeriod : Nat := 54000
  /-- How long a peer may send neither a ping nor a pong. -/
  pongWait : Nat := 60000
  /-- How long a frame may take to be written. -/
  writeWait : Nat := 10000
  maxMessageSize : Nat := 512
  queueCapacity : Nat := 256
  deriving DecidableEq, Repr

namespace ConnectionConfig

/-- The settings with another queue capacity, at least one. -/
def withQueueCapacity (c : ConnectionConfig) (capacity : Nat) : ConnectionConfig :=
  { c with queueCapacity := max capacity 1 }

/-- The number of events that may wait for a hub. -/
def defaultIntakeCapacity : Nat := 1024

/-- The greatest capacity that a queue can be given. -/
def maxCapacity : Nat := Decimal.twoTo 61 - 1

end ConnectionConfig
end RoomHub
