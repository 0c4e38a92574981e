import RoomHub.Connection.Config
import RoomHub.Connection.End
import RoomHub.Connection.Frame
import RoomHub.Hub.Outbox
import RoomHub.Schedule
import RoomHub.Wire.Socket

/-!
# The write pump

Writes the messages of an outbox to a peer, a ping every `pingPeriod`, and a closing frame when the
outbox is given up.  A write may take `writeWait`.  The pump is a machine: `Task`s are its moves,
`WritePump.readyAt` says from when on a move is possible.  Which of two possible moves is made is
left open; `WritePump.run` takes the choice as an argument.
-/

namespace RoomHub

/-- What a sink makes of one write. -/
inductive Write where
  /-- It takes so many milliseconds and may fail after them. -/
  | lasts (ms : Nat) (error : Option String)
  | never
  deriving DecidableEq, Repr

/-- What a sink makes of each write, counted from zero. -/
abbrev Sink := Nat → Write

/-- A sink that takes everything at once. -/
def Sink.instant : Sink := fun _ => .lasts 0 none

/-- A sink that takes nothing any more. -/
def Sink.broken : Sink := fun _ => .lasts 0 (some "broken pipe")

/-- A clock that strikes every `period`.  A strike that is taken more than five milliseconds late
moves all later ones. -/
structure Ticker where
  period : Nat
  due : Nat
  deriving DecidableEq, Repr

namespace Ticker

/-- The lateness, in milliseconds, that does not move later strikes. -/
def slack : Nat := 5

/-- A ticker that strikes for the first time one period after its start. -/
def start (now period : Nat) : Ticker := ⟨period, now + period⟩

/-- The ticker after its strike has been taken. -/
def take (t : Ticker) (now : Nat) : Ticker :=
  { t with due := (if t.due + slack < now then now else t.due) + t.period }

end Ticker

/-- A write in progress: when it is over and with what result. -/
structure Writing where
  frame : Frame
  endsAt : Nat
  result : Except WriteEnd Unit

/-- How a pump is no longer there. -/
inductive WriterExit where
  | ended (why : WriteEnd)
  | crashed
  deriving DecidableEq, Repr

/-- The state of a write pump. -/
structure WritePump where
  ticker : Ticker
  /-- How many writes have begun. -/
  begun : Nat
  current : Option Writing
  exit : Option WriterExit

/-- The frame for what an outbox has. -/
def Supply.frame : Supply → Frame
  | .message m => .text (Wire.messageText m)
  | .closed => .close none

namespace WritePump

/-- A pump at its start.  There is no ticker without a period: such a pump crashes. -/
def start (config : ConnectionConfig) (now : Nat) : WritePump where
  ticker := Ticker.start now config.pingPeriod
  begun := 0
  current := none
  exit := if config.pingPeriod = 0 then some .crashed else none

/-- Begins to write a frame.  A write that takes longer than `writeWait` is given up. -/
def begin (p : WritePump) (config : ConnectionConfig) (sink : Sink) (now : Nat) (frame : Frame) :
    WritePump :=
  let writing : Writing :=
    match sink p.begun with
    | .lasts ms error =>
      if ms ≤ config.writeWait then
        ⟨frame, now + ms, match error with | some e => .error (.failed e) | none => .ok ()⟩
      else ⟨frame, now + config.writeWait, .error .timeout⟩
    | .never => ⟨frame, now + config.writeWait, .error .timeout⟩
  { p with begun := p.begun + 1, current := some writing }

/-- Ends a write: the pump, and the frame if it was written.  Nothing follows a closing frame,
written or not. -/
def settle (p : WritePump) (w : Writing) : WritePump × Option Frame :=
  let p := { p with current := none }
  let written := match w.result with | .ok () => some w.frame | .error _ => none
  match w.frame, w.result with
  | .close _, _ => ({ p with exit := some (.ended .queueClosed) }, written)
  | _, .error why => ({ p with exit := some (.ended why) }, written)
  | _, .ok () => (p, written)

/-- A move of the pump. -/
inductive Task where
  /-- The write in progress is over. -/
  | settle
  /-- Something comes from the outbox. -/
  | queue
  /-- The ticker strikes. -/
  | tick
  deriving DecidableEq, Repr

/-- The time from which a move is possible, given from when on the outbox has something. -/
def readyAt (p : WritePump) (now : Nat) (supplyAt : Option Nat) (task : Task) : Option Nat :=
  match p.exit, p.current, task with
  | some _, _, _ => none
  | none, some w, .settle => some (max now w.endsAt)
  | none, none, .queue => supplyAt.map (max now)
  | none, none, .tick => some (max now p.ticker.due)
  | none, _, _ => none

/-- Takes a strike of the ticker and begins to write a ping. -/
def tick (p : WritePump) (config : ConnectionConfig) (sink : Sink) (now : Nat) : WritePump :=
  { p with ticker := p.ticker.take now }.begin config sink now (.ping [])

/-- Makes a move, given what the outbox has: the pump, and the frame whose writing is thereby
complete. -/
def perform (p : WritePump) (config : ConnectionConfig) (sink : Sink) (now : Nat)
    (supply : Option Supply) : Task → WritePump × Option Frame
  | .settle =>
    match p.current with
    | some w => p.settle w
    | none => (p, none)
  | .queue =>
    match supply with
    | some x => (p.begin config sink now x.frame, none)
    | none => (p, none)
  | .tick => (p.tick config sink now, none)

/-! ### The pump by itself -/

/-- A pump with the messages that will come into its outbox. -/
structure Run where
  now : Nat
  pump : WritePump
  /-- The messages and the times at which they come, in order. -/
  arrivals : List (Nat × Message)
  /-- When the outbox is given up; never before the last message has come. -/
  closesAt : Option Nat
  written : List (Nat × Frame)

namespace Run

/-- When the outbox has something, and what. -/
def supply (r : Run) : Option (Nat × Supply) :=
  match r.arrivals with
  | (time, m) :: _ => some (time, .message m)
  | [] => r.closesAt.map fun time => (time, .closed)

/-- Makes a move at a time. -/
def perform (r : Run) (config : ConnectionConfig) (sink : Sink) (time : Nat) (task : Task) : Run :=
  let (pump, frame) := r.pump.perform config sink time (r.supply.map (·.2)) task
  { r with
      now := time
      pump := pump
      arrivals := if task = .queue then r.arrivals.drop 1 else r.arrivals
      written := r.written ++ (frame.map ((time, ·))).toList }

/-- When a move is possible. -/
def readyAt (r : Run) (task : Task) : Option Nat :=
  r.pump.readyAt r.now (r.supply.map (·.1)) task

/-- The moves; `pingFirst` decides between the outbox and the ticker when both are ready. -/
def tasks (pingFirst : Bool) : List Task :=
  if pingFirst then [.settle, .tick, .queue] else [.settle, .queue, .tick]

/-- The next move and its time. -/
def next (r : Run) (pingFirst : Bool) : Option (Nat × Task) :=
  earliest ((tasks pingFirst).flatMap fun task => timed task (r.readyAt task))

/-- Makes moves up to the time `horizon`, at most `fuel` of them; `choose` settles ties. -/
def runTo (config : ConnectionConfig) (sink : Sink) (choose : Nat → Bool) (horizon : Nat) :
    Nat → Run → Run
  | 0, r => r
  | fuel + 1, r =>
    match r.next (choose fuel) with
    | some (time, task) =>
      if time ≤ horizon then runTo config sink choose horizon fuel (r.perform config sink time task)
      else r
    | none => r

end Run

/-- A pump that starts at time zero, up to the time `horizon`.  It makes at most two moves for each
message, each strike and the closing frame. -/
def run (config : ConnectionConfig) (sink : Sink) (choose : Nat → Bool) (horizon : Nat)
    (arrivals : List (Nat × Message)) (closesAt : Option Nat) : Run :=
  Run.runTo config sink choose horizon (2 * (arrivals.length + horizon + 3))
    ⟨0, start config 0, arrivals, closesAt, []⟩

end WritePump
end RoomHub
