import RoomHub.Connection.Frame
import RoomHub.Server.Basic
import RoomHub.Wire.Socket

/-!
# The read pump

Takes frames from a peer and hands their contents to the relay.  A peer that sends neither a ping
nor a pong for `pongWait` is given up; a frame that comes exactly at that deadline is still taken.
`ReadPump.judge` is the decision about one arrival, `ReadPump.run` the pump on a whole stream.
-/

namespace RoomHub

/-- How a pump is no longer there. -/
inductive ReaderExit where
  | ended (why : ReadEnd)
  | crashed
  deriving DecidableEq, Repr

namespace ReadPump

/-- What to do about an arrival. -/
inductive Verdict where
  | stop (why : ReadEnd)
  /-- The peer is alive: the deadline starts anew. -/
  | alive
  | relay (m : Wire.Inbound)
  deriving DecidableEq, Repr

/-- A payload that is too large is refused before it is looked at. -/
def judgePayload (config : ConnectionConfig) (bytes : List UInt8) : Verdict :=
  if config.maxMessageSize < bytes.length then .stop (.frameTooLarge bytes.length)
  else
    match Wire.Inbound.decode bytes with
    | .ok m => .relay m
    | .error report => .stop (.malformed report.message)

/-- The decision about an arrival. -/
def judge (config : ConnectionConfig) : Arrival → Verdict
  | .endOfStream => .stop .peerClosed
  | .failure reason => .stop (.transport reason)
  | .frame (.text s) => judgePayload config (Text.Utf8.ofText s)
  | .frame (.binary bytes) => judgePayload config bytes
  | .frame (.close _) => .stop .peerClosed
  | .frame (.ping _) => .alive
  | .frame (.pong _) => .alive

/-- Hands a client's message to the relay.  Kinds that clients may not send are dropped and
reported; `gone` says that the hub is not even there to be asked. -/
def relay (s : Server) (gone : Bool) (room : RoomId) (sender : Identity) (m : Wire.Inbound) :
    Option ReaderExit × Server :=
  if gone then (some (.ended .hubGone), s)
  else
    match s.relay room sender m.kind m.content with
    | (.ok _, s) => (none, s)
    | (.error (.refused (.reservedKind kind)), s) =>
      (none, s.report [.frameDropped kind sender.userId])
    | (.error (.refused (.hubUnavailable _)), s) => (some (.ended .hubGone), s)
    | (.error (.crashed _), s) => (some .crashed, s)

/-- What a pump makes of an arrival: how it is no longer there, if so, and its deadline from then
on. -/
def take (config : ConnectionConfig) (gone : Bool) (room : RoomId) (sender : Identity)
    (time deadline : Nat) (s : Server) (arrival : Arrival) : Option ReaderExit × Nat × Server :=
  match judge config arrival with
  | .stop why => (some (.ended why), deadline, s)
  | .alive => (none, time + config.pongWait, s)
  | .relay m =>
    let (exit, s) := relay s gone room sender m
    (exit, deadline, s)

/-- What a stream does after its last frame. -/
inductive Tail where
  | ends
  | silent
  deriving DecidableEq, Repr

/-- The time at which a pump goes on: at the next arrival or at its deadline. -/
def wakesAt (tail : Tail) (deadline : Nat) : List (Nat × Arrival) → Nat
  | (time, _) :: _ => min time deadline
  | [] =>
    match tail with
    | .ends => 0
    | .silent => deadline

/-- The end of a pump: how, when, and the server by then. -/
structure Outcome where
  exit : ReaderExit
  time : Nat
  server : Server

/-- The pump from time `now` on.  Each arrival comes with its time. -/
def run (config : ConnectionConfig) (gone : Bool) (room : RoomId) (sender : Identity) (tail : Tail)
    (now deadline : Nat) (s : Server) : List (Nat × Arrival) → Outcome
  | [] =>
    match tail with
    | .ends => ⟨.ended .peerClosed, now, s⟩
    | .silent => ⟨.ended .deadlineExceeded, deadline, s⟩
  | (time, arrival) :: rest =>
    if deadline < time then ⟨.ended .deadlineExceeded, deadline, s⟩
    else
      match take config gone room sender time deadline s arrival with
      | (some exit, _, s) => ⟨exit, time, s⟩
      | (none, deadline, s) => run config gone room sender tail time deadline s rest

end ReadPump
end RoomHub
