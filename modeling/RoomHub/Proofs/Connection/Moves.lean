import RoomHub.Proofs.Server.Obeying
import RoomHub.Proofs.World.Steps

/-!
# What a connection asks of its server

`Connection.Move.demands` lists what a move of a connection asks of its server, one operation after
the other; `perform_snd` says that this is all a move does to the server.  From it come the events
with which a move turns to the hub of its room (`Move.events`, `undergoes_perform`).
`Connection.Outcome` is all that a move can come to: the reader hands on at most one message,
whichever end of the connection comes first says farewell, once if it still can, a reader that
crashes says nothing, and the writer acts on its own outbox only (`outcome_perform`).
-/

namespace RoomHub
namespace Connection

open Server

/-- An operation that a connection asks of its server. -/
inductive Demand where
  | relay (kind : MessageKind) (content : String)
  | unregister
  /-- The writer takes a message from its outbox. -/
  | take
  /-- The writer gives up its outbox. -/
  | dropReceiver
  | report (notices : List Notice)

/-- What the server makes of a demand. -/
def meet (c : Connection) (s : Server) : Demand → Server
  | .relay kind content => (s.relay c.participant.room c.participant.identity kind content).2
  | .unregister => s.unregister true c.participant.room c.participant.id
  | .take => s.receive c.participant.room (.take c.participant.queue)
  | .dropReceiver => s.receive c.participant.room (.dropReceiver c.participant.queue)
  | .report notices => s.report notices

/-- The event with which a demand turns to the hub of the room; a message does so if it is
relayed. -/
def event? (c : Connection) (s : Server) : Demand → Option Hub.Event
  | .relay kind content =>
    (s.relay c.participant.room c.participant.identity kind content).1.toOption.map .broadcast
  | .unregister => some (.unregister c.participant.id)
  | .take => some (.take c.participant.queue)
  | .dropReceiver => some (.dropReceiver c.participant.queue)
  | .report _ => none

/-- The events with which demands turn to the hub, one after the other. -/
def events (c : Connection) : Server → List Demand → List Hub.Event
  | _, [] => []
  | s, demand :: demands => (c.event? s demand).toList ++ c.events (c.meet s demand) demands

/-- Whether a demand is the farewell of the connection. -/
def Demand.isFarewell : Demand → Bool
  | .unregister => true
  | _ => false

variable (c : Connection) (time : Nat) (s : Server)

theorem undergoes_meet (demand : Demand) :
    Undergoes c.participant.room (c.event? s demand).toList s (c.meet s demand) := by
  cases demand with
  | relay kind content =>
    have relayed := undergoes_relay s c.participant.room c.participant.identity kind content
    simp only [event?, meet]
    rwa [Option.toList_map]
  | unregister =>
    have sent := undergoes_send s c.participant.room (e := .unregister c.participant.id) rfl
    simp only [event?, meet, Server.unregister, if_true]
    split
    next heq => rwa [heq] at sent
    next heq =>
      rw [heq] at sent
      exact sent.report _
  | take => exact undergoes_receive s _ rfl
  | dropReceiver => exact undergoes_receive s _ rfl
  | report notices => exact .of_hubs rfl

theorem undergoes_demands (demands : List Demand) :
    Undergoes c.participant.room (c.events s demands) s (demands.foldl c.meet s) := by
  induction demands generalizing s with
  | nil => exact .refl s
  | cons demand demands ih => exact (c.undergoes_meet s demand).trans (ih (c.meet s demand))

theorem events_append (demands more : List Demand) :
    c.events s (demands ++ more) =
      c.events s demands ++ c.events (demands.foldl c.meet s) more := by
  induction demands generalizing s with
  | nil => rfl
  | cons demand demands ih =>
    simp only [List.cons_append, events, ih, List.append_assoc, List.foldl_cons]

theorem exists_demand {c : Connection} {s : Server} {demands : List Demand} {e : Hub.Event}
    (turns : e ∈ c.events s demands) :
    ∃ before demand after, demands = before ++ demand :: after ∧
      c.event? (before.foldl c.meet s) demand = some e := by
  induction demands generalizing s with
  | nil => cases turns
  | cons demand demands ih =>
    rcases List.mem_append.1 turns with here | later
    · exact ⟨[], demand, demands, rfl, Option.mem_toList.1 here⟩
    · obtain ⟨before, other, after, rfl, found⟩ := ih later
      exact ⟨demand :: before, other, after, rfl, found⟩

/-! ### The demands of each move -/

/-- The demands of a connection at its end: it is unregistered if its hub can be reached. -/
def farewell (c : Connection) : List Demand := if c.linked then [.unregister] else []

/-- The demands of a reader that ends. -/
def stopping (c : Connection) (why : ReadEnd) : List Demand :=
  .report [.readStopped c.participant.id c.participant.room why] :: c.farewell

/-- The demands of a reader that hands a message to the relay; it may end or crash by that. -/
def relaying (c : Connection) (s : Server) (m : Wire.Inbound) : List Demand :=
  .relay m.kind m.content ::
    match (s.relay c.participant.room c.participant.identity m.kind m.content).1 with
    | .ok _ => []
    | .error (.refused (.reservedKind kind)) =>
      [.report [.frameDropped kind c.participant.identity.userId]]
    | .error (.refused (.hubUnavailable _)) => c.stopping .hubGone
    | .error (.crashed _) => []

/-- The demands of a reader that takes an arrival. -/
def taking (c : Connection) (s : Server) (arrival : Arrival) : List Demand :=
  match ReadPump.judge c.config arrival with
  | .stop why => c.stopping why
  | .alive => []
  | .relay m => if c.linked then c.relaying s m else c.stopping .hubGone

/-- The demands of the reader's next step. -/
def readDemands (c : Connection) (s : Server) : List Demand :=
  match c.inbox with
  | [] => c.stopping (match c.tail with | .ends => .peerClosed | .silent => .deadlineExceeded)
  | (arrives, arrival) :: _ =>
    if c.deadline < arrives then c.stopping .deadlineExceeded else c.taking s arrival

/-- The demands of a move. -/
def Move.demands (m : Move) (c : Connection) (time : Nat) (s : Server) : List Demand :=
  match m with
  | .hear _ | .lose => []
  | .read => c.readDemands s
  | .write task =>
    (match task, c.supply s with
      | .queue, some (.message _) => [.take]
      | _, _ => []) ++
      if (c.writer.perform c.config c.sink time (c.supply s) task).1.exit.isSome then
        [.dropReceiver]
      else []
  | .conclude =>
    (if c.reading then c.farewell else []) ++
      if c.crashed then [] else [.report (c.writer.exit.map c.writerNotice).toList]

/-- The events with which a move turns to the hub of the connection's room. -/
def Move.events (m : Move) (c : Connection) (time : Nat) (s : Server) : List Hub.Event :=
  c.events s (m.demands c time s)

theorem unregister_eq : c.unregister s = c.farewell.foldl c.meet s := by
  unfold unregister farewell
  cases c.linked <;> rfl

theorem stopReading_snd (why : ReadEnd) :
    (c.stopReading s why).2 = (c.stopping why).foldl c.meet s :=
  c.unregister_eq (s.report _)

/-- To write frames changes nothing that a connection does later, but what was sent. -/
theorem send_eq (frames : List Frame) :
    ∃ sent, c.send time frames = { c with sent := sent } := by
  unfold send
  split_ifs
  · exact ⟨c.sent, rfl⟩
  · exact ⟨_, rfl⟩

/-- All that becomes of an arrival: how the reader is no longer there, if so, and the server, for
the demands that come with it.  The hub gets at most one message, and none from a reader that ends
or crashes by it. -/
inductive Takes (c : Connection) (s : Server) :
    Option ReaderExit → Server → List Demand → Prop
  | goes (demands : List Demand) (quiet : demands.countP Demand.isFarewell = 0)
      (message : Option Message) (said : c.events s demands = message.toList.map .broadcast) :
      Takes c s none (demands.foldl c.meet s) demands
  | ends (demands : List Demand) (quiet : demands.countP Demand.isFarewell = 0)
      (silent : c.events s demands = []) (why : ReadEnd) :
      Takes c s (some (.ended why)) (demands.foldl c.meet s) (demands ++ c.stopping why)
  | crashes (demands : List Demand) (quiet : demands.countP Demand.isFarewell = 0)
      (silent : c.events s demands = []) :
      Takes c s (some .crashed) (demands.foldl c.meet s) demands

theorem takes_take (arrival : Arrival) :
    let taken := ReadPump.take c.config (!c.linked) c.participant.room c.participant.identity time
      c.deadline s arrival
    c.Takes s taken.1 taken.2.2 (c.taking s arrival) := by
  intro taken
  simp only [taken, ReadPump.take, taking]
  cases ReadPump.judge c.config arrival with
  | stop why => exact .ends [] rfl rfl why
  | alive => exact .goes [] rfl none rfl
  | relay m =>
    simp only [ReadPump.relay]
    cases c.linked with
    | false => exact .ends [] rfl rfl .hubGone
    | true =>
      rcases handed : s.relay c.participant.room c.participant.identity m.kind m.content with
        ⟨result, t⟩
      have asked : c.event? s (.relay m.kind m.content) = result.toOption.map .broadcast := by
        simp only [event?, handed]
      have met : c.meet s (.relay m.kind m.content) = t := by simp only [meet, handed]
      subst met
      simp only [relaying, handed, Bool.not_true, Bool.false_eq_true, if_false, if_true]
      have silent (why : Failure RelayError) (failed : result = .error why) :
          c.events s [.relay m.kind m.content] = [] := by
        simp only [events, asked, failed]
        rfl
      cases result with
      | ok message =>
        exact .goes [.relay m.kind m.content] rfl (some message)
          (by simp only [events, asked]; rfl)
      | error why =>
        cases why with
        | crashed fault => exact .crashes [.relay m.kind m.content] rfl (silent _ rfl)
        | refused refusal =>
          cases refusal with
          | reservedKind kind =>
            exact .goes [.relay m.kind m.content,
              .report [.frameDropped kind c.participant.identity.userId]] rfl none
                (by simp only [events, asked]; rfl)
          | hubUnavailable gone =>
            exact .ends [.relay m.kind m.content] rfl (silent _ rfl) .hubGone

/-- A step of the reader, told by what becomes of the arrival that it takes; a reader that ends
because none comes ends without one. -/
theorem read_spec : ∃ exit t inbox sent deadline, c.Takes s exit t (c.readDemands s) ∧
    c.read time s =
      match exit with
      | none => ({ c with inbox, sent, deadline }, t)
      | some (.ended why) =>
        ({ c with inbox, sent, reading := false }, (c.stopping why).foldl c.meet t)
      | some .crashed => ({ c with inbox, sent, reading := false, crashed := true }, t) := by
  have stops (why : ReadEnd) : c.stopReading s why =
      ({ c with reading := false }, (c.stopping why).foldl c.meet s) :=
    Prod.ext rfl (c.stopReading_snd s why)
  have ends (why : ReadEnd) : c.Takes s (some (.ended why)) s (c.stopping why) :=
    .ends [] rfl rfl why
  unfold read readDemands
  cases waiting : c.inbox with
  | nil =>
    refine ⟨_, _, c.inbox, c.sent, c.deadline, ends _, Eq.trans ?_ (stops _)⟩
    dsimp only
    cases c.tail <;> rfl
  | cons next rest =>
    obtain ⟨arrives, arrival⟩ := next
    dsimp only
    split_ifs
    · exact ⟨_, _, c.inbox, c.sent, c.deadline, ends _, stops _⟩
    · obtain ⟨sent, same⟩ := ({ c with inbox := rest } : Connection).send_eq time (c.reply arrival)
      have takes := c.takes_take time s arrival
      rw [same]
      dsimp only at takes ⊢
      generalize ReadPump.take c.config (!c.linked) c.participant.room c.participant.identity time
        c.deadline s arrival = taken at takes ⊢
      obtain ⟨exit, deadline, t⟩ := taken
      refine ⟨exit, t, rest, sent, deadline, takes, ?_⟩
      match exit with
      | none => rfl
      | some (.ended why) =>
        exact Prod.ext rfl (({ c with inbox := rest, sent } : Connection).stopReading_snd t why)
      | some .crashed => rfl

theorem read_snd : (c.read time s).2 = (c.readDemands s).foldl c.meet s := by
  obtain ⟨exit, t, inbox, sent, deadline, takes, same⟩ := c.read_spec time s
  rw [same]
  generalize c.readDemands s = demands at takes
  cases takes with
  | goes => rfl
  | ends => exact List.foldl_append.symm
  | crashes => rfl

theorem write_fst (task : WritePump.Task) : ∃ sent, (c.write task time s).1 =
    { c with writer := (c.writer.perform c.config c.sink time (c.supply s) task).1, sent } := by
  obtain ⟨sent, same⟩ := ({ c with
    writer := (c.writer.perform c.config c.sink time (c.supply s) task).1 } : Connection).send_eq
      time (c.writer.perform c.config c.sink time (c.supply s) task).2.toList
  exact ⟨sent, same⟩

theorem write_snd (task : WritePump.Task) :
    (c.write task time s).2 = ((Move.write task).demands c time s).foldl c.meet s := by
  unfold write
  dsimp only [Move.demands]
  obtain ⟨sent, same⟩ := ({ c with
    writer := (c.writer.perform c.config c.sink time (c.supply s) task).1 } : Connection).send_eq
      time (c.writer.perform c.config c.sink time (c.supply s) task).2.toList
  rw [same, List.foldl_append]
  have released (d : Connection) (own : d.participant = c.participant) (t : Server) :
      d.release t = (if d.writer.exit.isSome then [.dropReceiver] else []).foldl c.meet t := by
    unfold release
    rw [own]
    split_ifs <;> rfl
  refine (released { c with
    writer := (c.writer.perform c.config c.sink time (c.supply s) task).1, sent } rfl _).trans ?_
  congr 1
  cases task with
  | queue =>
    cases c.supply s with
    | none => rfl
    | some x => cases x <;> rfl
  | settle => rfl
  | tick => rfl

theorem conclude_snd :
    (c.conclude time s).2 = (Move.conclude.demands c time s).foldl c.meet s := by
  simp only [conclude, Move.demands, List.foldl_append, unregister_eq]
  cases c.reading <;> cases c.crashed <;> rfl

/-- A move does to the server what it demands, and nothing else. -/
theorem perform_snd (m : Move) :
    (m.perform c time s).2 = (m.demands c time s).foldl c.meet s := by
  cases m with
  | hear f => rfl
  | lose => rfl
  | read => exact c.read_snd time s
  | write task => exact c.write_snd time s task
  | conclude => exact c.conclude_snd time s

/-- The hubs of a server meet with the events of a move, and with nothing else. -/
theorem undergoes_perform (m : Move) :
    Undergoes c.participant.room (m.events c time s) s (m.perform c time s).2 := by
  rw [perform_snd]
  exact c.undergoes_demands s _

/-! ### What moves come to -/

/-- The event with which a connection takes its leave of a hub that it can reach. -/
def parting (c : Connection) : List Hub.Event :=
  if c.linked then [.unregister c.participant.id] else []

theorem eq_of_mem_parting {c : Connection} {e : Hub.Event} (parts : e ∈ c.parting) :
    e = .unregister c.participant.id := by
  unfold parting at parts
  split_ifs at parts
  · exact List.mem_singleton.1 parts
  · cases parts

theorem events_farewell : c.events s c.farewell = c.parting := by
  unfold farewell parting
  split_ifs <;> rfl

theorem countP_farewell :
    c.farewell.countP Demand.isFarewell = if c.linked then 1 else 0 := by
  unfold farewell
  split_ifs <;> rfl

/-- When a move can be made at the earliest. -/
def Move.dueAt (m : Move) (c : Connection) (now : Nat) (s : Server) : Option Nat :=
  match m with
  | .hear _ | .lose => some now
  | .read => c.readsAt now
  | .write task => c.writesAt now s task
  | .conclude => c.concludesAt now

/-- What a move makes of a connection, for its demands and for the events with which it turns to the
hub: the reader goes on and hands on at most one message, or somebody ends it, or it crashes, or the
move is not about the reader and at most the connection's own outbox hears of it. -/
inductive Outcome (c : Connection) : Connection → List Demand → List Hub.Event → Prop
  | relays {c' : Connection} {demands : List Demand} (message : Option Message)
      (before : c.reading = true) (reading : c'.reading = true) (crashed : c'.crashed = c.crashed)
      (quiet : demands.countP Demand.isFarewell = 0) :
      Outcome c c' demands (message.toList.map .broadcast)
  | ends {c' : Connection} {demands : List Demand} (before : c.reading = true)
      (reading : c'.reading = false) (crashed : c'.crashed = c.crashed)
      (once : demands.countP Demand.isFarewell = if c.linked then 1 else 0) :
      Outcome c c' demands c.parting
  | crashes {c' : Connection} {demands : List Demand} (before : c.reading = true)
      (reading : c'.reading = false) (crashed : c'.crashed = true)
      (quiet : demands.countP Demand.isFarewell = 0) : Outcome c c' demands []
  | aside {c' : Connection} {demands : List Demand} {events : List Hub.Event}
      (reading : c'.reading = c.reading) (crashed : c'.crashed = c.crashed)
      (quiet : demands.countP Demand.isFarewell = 0)
      (own : ∀ e ∈ events, e = .take c.participant.queue ∨ e = .dropReceiver c.participant.queue) :
      Outcome c c' demands events

theorem outcome_read (before : c.reading = true) :
    c.Outcome (c.read time s).1 (c.readDemands s) (c.events s (c.readDemands s)) := by
  obtain ⟨exit, t, inbox, sent, deadline, takes, same⟩ := c.read_spec time s
  rw [same]
  generalize c.readDemands s = demands at takes ⊢
  cases takes with
  | goes _ quiet message said =>
    rw [said]
    exact .relays message before before rfl quiet
  | ends demands quiet silent why =>
    have parts : c.events (demands.foldl c.meet s) (c.stopping why) = c.parting :=
      c.events_farewell _
    rw [events_append, silent, parts]
    refine .ends before rfl rfl ?_
    rw [List.countP_append, quiet, Nat.zero_add]
    exact c.countP_farewell
  | crashes _ quiet silent =>
    rw [silent]
    exact .crashes before rfl rfl quiet

/-- The writer acts on its own outbox only. -/
theorem demand_of_write {task : WritePump.Task} {demand : Demand}
    (asked : demand ∈ (Move.write task).demands c time s) :
    demand = .take ∨ demand = .dropReceiver := by
  rcases List.mem_append.1 asked with asked | asked
  · split at asked
    · exact .inl (List.mem_singleton.1 asked)
    · cases asked
  · split_ifs at asked
    · exact .inr (List.mem_singleton.1 asked)
    · cases asked

theorem outcome_write (task : WritePump.Task) :
    c.Outcome (c.write task time s).1 ((Move.write task).demands c time s)
      ((Move.write task).events c time s) := by
  obtain ⟨sent, same⟩ := c.write_fst time s task
  rw [same]
  refine .aside rfl rfl (List.countP_eq_zero.2 fun demand asked => ?_) fun e turns => ?_
  · rcases c.demand_of_write time s asked with rfl | rfl <;> exact nofun
  · obtain ⟨before, demand, after, split, found⟩ := exists_demand turns
    have asked : demand ∈ (Move.write task).demands c time s :=
      split ▸ List.mem_append_right _ List.mem_cons_self
    rcases c.demand_of_write time s asked with rfl | rfl
    · exact .inl (Option.some.inj found).symm
    · exact .inr (Option.some.inj found).symm

theorem outcome_conclude :
    c.Outcome (c.conclude time s).1 (Move.conclude.demands c time s)
      (Move.conclude.events c time s) := by
  have report : ∀ t, c.events t
      (if c.crashed then [] else [.report (c.writer.exit.map c.writerNotice).toList]) = [] ∧
      (if c.crashed then [] else
          [Demand.report (c.writer.exit.map c.writerNotice).toList]).countP
        Demand.isFarewell = 0 := by
    intro t
    split_ifs <;> exact ⟨rfl, rfl⟩
  simp only [Move.events, Move.demands, events_append, (report _).1, List.append_nil]
  cases before : c.reading with
  | true =>
    rw [if_pos rfl, events_farewell]
    refine .ends before rfl rfl ?_
    rw [List.countP_append, (report s).2, countP_farewell]
    rfl
  | false => exact .aside before.symm rfl (report s).2 (by simp [events])

/-- A move that is made when it is due has one of these outcomes. -/
theorem outcome_perform (m : Move) {now : Nat} (due : (m.dueAt c now s).isSome) :
    c.Outcome (m.perform c time s).1 (m.demands c time s) (m.events c time s) := by
  cases m with
  | hear f => exact .aside rfl rfl rfl (by simp [Move.events, Move.demands, events])
  | lose => exact .aside rfl rfl rfl (by simp [Move.events, Move.demands, events])
  | read =>
    have before : c.reading = true := by
      simpa [Move.dueAt, readsAt] using due
    exact c.outcome_read time s before
  | write task => exact c.outcome_write time s task
  | conclude => exact c.outcome_conclude time s

theorem linked_perform (m : Move) : (m.perform c time s).1.linked = c.linked := by
  cases m with
  | read =>
    obtain ⟨exit, t, inbox, sent, deadline, takes, same⟩ := c.read_spec time s
    simp only [Move.perform, same]
    generalize c.readDemands s = demands at takes
    cases takes <;> rfl
  | write task =>
    obtain ⟨sent, same⟩ := c.write_fst time s task
    simp only [Move.perform, same]
  | _ => rfl

/-- A connection that is over has neither reader nor writer. -/
def Settled : Prop := c.endedAt.isSome → c.writer.exit.isSome ∧ c.reading = false

theorem Settled.perform {c : Connection} (settled : c.Settled) (m : Move) {now : Nat}
    (due : (m.dueAt c now s).isSome) : (m.perform c time s).1.Settled := by
  cases m with
  | hear f => exact settled
  | lose => exact settled
  | read =>
    obtain ⟨exit, t, inbox, sent, deadline, takes, same⟩ := c.read_spec time s
    simp only [Move.perform, same]
    generalize c.readDemands s = demands at takes
    cases takes with
    | goes => exact settled
    | ends => exact fun finished => ⟨(settled finished).1, rfl⟩
    | crashes => exact fun finished => ⟨(settled finished).1, rfl⟩
  | write task =>
    obtain ⟨sent, same⟩ := c.write_fst time s task
    intro finished
    simp only [Move.perform, same] at finished ⊢
    -- a writer that has ended makes no move
    obtain ⟨exit, ended⟩ := Option.isSome_iff_exists.1 (settled finished).1
    simp [Move.dueAt, writesAt, WritePump.readyAt, ended] at due
  | conclude =>
    intro finished
    have ended : c.writer.exit.isSome = true ∧ c.endedAt.isNone = true := by
      simpa [Move.dueAt, concludesAt] using due
    exact ⟨ended.1, rfl⟩

end Connection
end RoomHub
