import RoomHub.Connection.Basic

/-!
# The world of a server

A server, the connections that it serves, what others are going to broadcast, and the time.  A `Turn`
is one move of one of them; `World.turns` lists the turns that will become possible and
`World.perform` makes one.  Several may be possible at the same time, and any of them may come first;
`World.run` takes them in the order in which they are listed.
-/

namespace RoomHub

/-- A server and everything that happens to it. -/
structure World where
  now : Nat
  server : Server
  connections : List Connection
  /-- The messages that others will broadcast, each with its time and room. -/
  feed : List (Nat × RoomId × Message)

/-- One move in a world; connections are told apart by their place. -/
inductive Turn where
  | read (place : Nat)
  /-- The next message of the feed is broadcast. -/
  | feed
  | write (place : Nat) (task : WritePump.Task)
  | conclude (place : Nat)
  deriving DecidableEq

namespace World

/-- A world at time zero. -/
def ofServer (s : Server) : World := ⟨0, s, [], []⟩

/-- Begins to serve a connection. -/
def serve (w : World) (c : Connection) : World :=
  { w with connections := w.connections ++ [c], server := c.release w.server }

/-- Changes one connection and the server. -/
def act (w : World) (time : Nat) (place : Nat)
    (move : Connection → Nat → Server → Connection × Server) : World :=
  match w.connections[place]? with
  | none => w
  | some c =>
    let (c, s) := move c time w.server
    { w with now := time, server := s, connections := w.connections.set place c }

/-- Broadcasts the next message of the feed. -/
def broadcastNext (w : World) (time : Nat) : World :=
  match w.feed with
  | [] => w
  | (_, room, m) :: rest =>
    { w with now := time, server := (w.server.send room (.broadcast m)).2, feed := rest }

/-- Makes a turn at a time. -/
def perform (w : World) (time : Nat) : Turn → World
  | .read place => w.act time place Connection.read
  | .feed => w.broadcastNext time
  | .write place task => w.act time place fun c => c.write task
  | .conclude place => w.act time place Connection.conclude

/-- The turns that will become possible, each with its time. -/
def turns (w : World) : List (Nat × Turn) :=
  let connections := w.connections.zipIdx
  connections.flatMap (fun (c, i) => timed (.read i) (c.readsAt w.now)) ++
    timed .feed (w.feed.head?.map fun x => max w.now x.1) ++
    [WritePump.Task.settle, .queue, .tick].flatMap (fun task =>
      connections.flatMap fun (c, i) => timed (.write i task) (c.writesAt w.now w.server task)) ++
    connections.flatMap fun (c, i) => timed (.conclude i) (c.concludesAt w.now)

/-- Makes turns up to the time `horizon` or until `done` holds, at most `fuel` of them. -/
def runTurns (done : World → Bool) (horizon : Nat) : Nat → World → World
  | 0, w => w
  | fuel + 1, w =>
    if done w then w
    else
      match earliest w.turns with
      | some (time, turn) =>
        if time ≤ horizon then runTurns done horizon fuel (w.perform time turn) else w
      | none => w

/-- A bound on the number of turns up to `horizon`.  Each frame, message and strike of a ticker
takes a few turns, and no ticker strikes more often than once a millisecond. -/
def bound (w : World) (horizon : Nat) : Nat :=
  let frames := (w.connections.flatMap (·.inbox)).length
  let waiting := (w.connections.flatMap (·.waiting w.server)).length
  4 * (w.connections.length + 1) * (frames + waiting + w.feed.length + horizon + 8)

/-- Lets time pass up to `horizon`, or until `done` holds. -/
def runUntil (done : World → Bool) (horizon : Nat) (w : World) : World :=
  runTurns done horizon (w.bound horizon) w

/-- Lets time pass up to `horizon`. -/
def run (w : World) (horizon : Nat) : World :=
  { w.runUntil (fun _ => false) horizon with now := horizon }

end World
end RoomHub
