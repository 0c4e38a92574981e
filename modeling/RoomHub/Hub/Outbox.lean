import RoomHub.Message

/-!
# Outboxes

The bounded queue between a hub and the receiver of one connection.  An outbox keeps everything it
has accepted and how much of that its receiver has taken, so what was taken followed by what is
pending is what was accepted (`taken_append_pending`).
-/

namespace RoomHub

/-- A queue of messages for one receiver. -/
structure Outbox where
  capacity : Nat
  accepted : List Message
  /-- How many messages the receiver has taken. -/
  position : Nat
  /-- Whether there still is a receiver. -/
  receiving : Bool
  deriving DecidableEq

/-- What became of a message offered to an outbox. -/
inductive Delivery where
  | accepted
  | full
  | closed
  deriving DecidableEq, Repr

/-- What an outbox has for its receiver. -/
inductive Supply where
  | message (m : Message)
  /-- Everything was taken and nothing more will come. -/
  | closed
  deriving DecidableEq

namespace Outbox

/-- An outbox that nothing was put into; it holds at least one message. -/
def empty (capacity : Nat) : Outbox := ⟨max capacity 1, [], 0, true⟩

/-- The messages that the receiver has taken. -/
def taken (b : Outbox) : List Message := b.accepted.take b.position

/-- The messages that wait for the receiver. -/
def pending (b : Outbox) : List Message := b.accepted.drop b.position

/-- Offers a message without waiting for room. -/
def offer (b : Outbox) (m : Message) : Outbox × Delivery :=
  if !b.receiving then (b, .closed)
  else if b.capacity ≤ b.pending.length then (b, .full)
  else ({ b with accepted := b.accepted ++ [m] }, .accepted)

/-- The receiver takes the oldest pending message, if there is one. -/
def take (b : Outbox) : Outbox :=
  if b.pending.isEmpty then b else { b with position := b.position + 1 }

/-- The receiver goes away. -/
def dropReceiver (b : Outbox) : Outbox := { b with receiving := false }

theorem taken_append_pending (b : Outbox) : b.taken ++ b.pending = b.accepted :=
  List.take_append_drop _ _

end Outbox
end RoomHub
