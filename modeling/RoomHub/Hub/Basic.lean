import RoomHub.Hub.Outbox
import RoomHub.Notice

/-!
# Hubs

A hub owns the members of one room and handles one event after the other.  A broadcast offers its
message to every member, in whatever order the hub visits them, and removes those whose outbox is
full or whose receiver is gone.  Every registration brings an outbox of its own.  Outboxes outlive
membership, so that a receiver can take what was accepted before its removal.
-/

namespace RoomHub

/-- Tells the outboxes of a hub apart: the one of a connection's registration number `turn`, counted
from zero. -/
structure QueueId where
  owner : ConnectionId
  turn : Nat
  deriving DecidableEq

/-- A connection as its hub sees it. -/
structure Member where
  id : ConnectionId
  userId : UserId
  displayName : DisplayName
  queue : QueueId
  deriving DecidableEq

/-- The state of one room. -/
structure Hub where
  room : RoomId
  running : Bool
  members : List Member
  outboxes : List (QueueId × Outbox)

/-- An order in which a hub visits its members. -/
structure Visit where
  order : List Member → List Member
  perm : ∀ members, (order members).Perm members

/-- The members are visited in the order of their registration. -/
def Visit.inOrder : Visit := ⟨fun members => members, fun _ => .refl _⟩

namespace Hub

/-- What happens to a hub: events that it handles, and what receivers do to their outboxes. -/
inductive Event where
  /-- A connection of a user becomes a member, with a fresh outbox. -/
  | register (id : ConnectionId) (user : Identity) (capacity : Nat)
  | unregister (id : ConnectionId)
  | broadcast (message : Message)
  /-- Somebody asks who the members are. -/
  | inspect
  /-- A receiver takes a message. -/
  | take (queue : QueueId)
  /-- A receiver goes away. -/
  | dropReceiver (queue : QueueId)
  deriving DecidableEq

/-- The hub of a room at its start. -/
def start (room : RoomId) : Hub := ⟨room, true, [], []⟩

/-- The outbox with an identifier. -/
def outbox? (hub : Hub) (queue : QueueId) : Option Outbox := hub.outboxes.lookup queue

/-- How often a connection has been registered. -/
def registrations (hub : Hub) (id : ConnectionId) : Nat := hub.outboxes.countP (·.1.owner = id)

/-- The outbox that the next registration of a connection brings. -/
def nextQueue (hub : Hub) (id : ConnectionId) : QueueId := ⟨id, hub.registrations id⟩

/-- Whether the hub can still put messages into an outbox. -/
def isAttached (hub : Hub) (queue : QueueId) : Bool := hub.members.any (·.queue = queue)

/-- The messages that the receiver of an outbox has taken. -/
def taken (hub : Hub) (queue : QueueId) : List Message :=
  ((hub.outbox? queue).map Outbox.taken).getD []

/-- The messages that wait in an outbox. -/
def pending (hub : Hub) (queue : QueueId) : List Message :=
  ((hub.outbox? queue).map Outbox.pending).getD []

/-- What an outbox has for its receiver; nothing while more may come. -/
def supply (hub : Hub) (queue : QueueId) : Option Supply :=
  match hub.pending queue with
  | m :: _ => some (.message m)
  | [] => if hub.isAttached queue then none else some .closed

/-- Changes one outbox. -/
def modify (hub : Hub) (queue : QueueId) (f : Outbox → Outbox) : Hub :=
  { hub with outboxes := hub.outboxes.map fun (q, b) => if q = queue then (q, f b) else (q, b) }

/-- Removes a member; its outbox stays. -/
def remove (hub : Hub) (id : ConnectionId) : Hub :=
  { hub with members := hub.members.filter (·.id ≠ id) }

/-- What would become of a message offered to a member. -/
def delivery (hub : Hub) (m : Message) (member : Member) : Delivery :=
  ((hub.outbox? member.queue).map fun b => (b.offer m).2).getD .closed

/-- Offers a message to one member. -/
def offer (hub : Hub) (m : Message) (member : Member) : Hub × Delivery :=
  (hub.modify member.queue fun b => (b.offer m).1, hub.delivery m member)

/-- Offers a message to members in the given order. -/
def offerAll (m : Message) : List Member → Hub → Hub × List (Member × Delivery)
  | [], hub => (hub, [])
  | member :: members, hub =>
    let (hub, delivery) := hub.offer m member
    let (hub, deliveries) := offerAll m members hub
    (hub, (member, delivery) :: deliveries)

/-- The notice of a delivery that removes a member. -/
def removalNotice (room : RoomId) : Member × Delivery → List Notice
  | (member, .full) => [.queueFull member.id room]
  | (member, .closed) => [.queueClosed member.id room]
  | (_, .accepted) => []

/-- Offers a message to all members and removes those who could not take it. -/
def broadcast (hub : Hub) (visit : Visit) (m : Message) : Hub × List Notice :=
  let (offered, deliveries) := offerAll m (visit.order hub.members) hub
  let refused := deliveries.filter (·.2 ≠ .accepted)
  let hub := refused.foldl (fun hub r => hub.remove r.1.id) offered
  (hub, refused.flatMap (removalNotice hub.room) ++
    [.broadcasted m.kind m.senderId hub.members.length hub.room])

/-- Handles one event. -/
def handle (hub : Hub) (visit : Visit) : Event → Hub × List Notice
  | .register id user capacity =>
    let others := hub.remove id
    let queue := hub.nextQueue id
    ({ others with
        members := others.members ++ [⟨id, user.userId, user.displayName, queue⟩]
        outboxes := (queue, Outbox.empty capacity) :: others.outboxes },
      [.registered id hub.room (hub.members.length + 1)])
  | .unregister id =>
    (hub.remove id,
      if hub.members.any (·.id = id) then [.unregistered id hub.room] else [])
  | .broadcast m => hub.broadcast visit m
  | .inspect => (hub, [])
  | .take queue => (hub.modify queue Outbox.take, [])
  | .dropReceiver queue => (hub.modify queue Outbox.dropReceiver, [])

/-- The hub after a list of events, each with the order in which it visits the members. -/
def run (hub : Hub) (events : List (Event × Visit)) : Hub :=
  events.foldl (fun hub e => (hub.handle e.2 e.1).1) hub

/-- Stops the hub's loop: all members are given up. -/
def stop (hub : Hub) : Hub := { hub with running := false, members := [] }

end Hub
end RoomHub
