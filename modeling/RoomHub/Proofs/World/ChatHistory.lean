import RoomHub.Proofs.Server.Keeping
import RoomHub.Proofs.World.Registry
import RoomHub.Proofs.World.Stores

/-!
# The chat log is what was said

`World.saidIn` lists the chat messages that readers hand to the relay in a history, and the store of
a world is asked to save just these (`store_through`).  A server may also save a message some time
after the reader has handed it on: a `Backlog` is a world with the messages that are yet to be
saved, first in first out.  Its world is a twin of the one that saves at once (`Backlog.twin_after`), and
what was said is what was saved, followed by what is yet to be saved (`Backlog.log_after`).
-/

namespace RoomHub

open Server

/-- The chat message that an event broadcasts. -/
def Hub.Event.chat? (e : Hub.Event) : Option Message := e.message?.filter (·.isChat)

namespace Connection

/-- The chat message that the relay makes of what a client sends, if it is one. -/
def chatOf? (c : Connection) (s : Server) (m : Wire.Inbound) : Option Message :=
  if m.kind = .chat then
    s.clock.map fun time =>
      { kind := .chat, senderId := c.participant.identity.userId
        senderName := c.participant.identity.displayName, content := m.content
        timestamp := time, roomId := c.participant.room }
  else none

/-- The chat message that the reader of a connection makes of its next frame and hands to the
relay. -/
def utterance? (c : Connection) (s : Server) : Option Message :=
  match c.inbox with
  | [] => none
  | (arrives, arrival) :: _ =>
    if c.deadline < arrives || !c.linked then none
    else
      match ReadPump.judge c.config arrival with
      | .relay m => c.chatOf? s m
      | _ => none

variable {c : Connection} {s : Server} {m : Message}

/-- What a connection says comes from a frame that is taken in time. -/
theorem eq_of_utterance? (said : c.utterance? s = some m) :
    ∃ arrives f rest inbound shown, c.inbox = (arrives, .frame f) :: rest ∧
      arrives ≤ c.deadline ∧ c.linked = true ∧
      ReadPump.judge c.config (.frame f) = .relay inbound ∧ inbound.kind = .chat ∧
      s.clock = some shown ∧
      m = { kind := .chat, senderId := c.participant.identity.userId
            senderName := c.participant.identity.displayName, content := inbound.content
            timestamp := shown, roomId := c.participant.room } := by
  unfold utterance? at said
  split at said
  · cases said
  next arrives arrival rest waiting =>
    split_ifs at said with late
    split at said
    next inbound judged =>
      unfold chatOf? at said
      split_ifs at said with chat
      obtain ⟨shown, clock, rfl⟩ := Option.map_eq_some_iff.1 said
      obtain ⟨f, rfl, -, -⟩ := ReadPump.judge_relay judged
      simp only [Bool.or_eq_true, decide_eq_true_eq, not_or, not_lt, Bool.not_eq_true',
        Bool.not_eq_false] at late
      exact ⟨arrives, f, rest, inbound, shown, waiting, late.1, late.2, judged, chat, clock, rfl⟩
    · cases said

theorem kind_of_utterance? (said : c.utterance? s = some m) : m.kind = .chat := by
  obtain ⟨_, _, _, _, _, _, _, _, _, _, _, rfl⟩ := eq_of_utterance? said
  rfl

/-- The reader of a connection that says something goes on. -/
theorem read_of_utterance? (lasting : s.Lasting) (there : c.participant.room ∈ s.rooms)
    (said : c.utterance? s = some m) (time : Nat) :
    (c.read time s).1.reading = c.reading ∧ (c.read time s).1.crashed = c.crashed := by
  obtain ⟨arrives, f, rest, inbound, shown, waiting, due, linked, judged, chat, clock, -⟩ :=
    eq_of_utterance? said
  obtain ⟨sent, same⟩ := ({ c with inbox := rest } : Connection).send_eq time (c.reply (.frame f))
  have relayed := lasting.relay_fst there c.participant.identity inbound.kind inbound.content
  rw [if_neg (by simp [chat]), clock] at relayed
  rcases done : s.relay c.participant.room c.participant.identity inbound.kind inbound.content with
    ⟨result, t⟩
  rw [done] at relayed
  dsimp only at relayed
  subst relayed
  have taken : ReadPump.take c.config (!c.linked) c.participant.room c.participant.identity time
      c.deadline s (.frame f) = (none, c.deadline, t) := by
    simp only [ReadPump.take, judged, ReadPump.relay, linked, Bool.not_true, Bool.false_eq_true,
      if_false, done]
  unfold read
  rw [waiting]
  dsimp only
  rw [if_neg (Nat.not_lt.2 due), same]
  dsimp only
  rw [taken]
  exact ⟨rfl, rfl⟩

end Connection

namespace Server

variable {s : Server} {room : RoomId}

theorem store_send (s : Server) (room : RoomId) (e : Hub.Event) :
    (s.send room e).2.store = s.store :=
  (leads_send (P := fun _ change => ∀ m, change ≠ .saved m) s room e fun _ => nofun).store_eq
    fun _ m saved => saved m rfl

/-- The relay saves the chat message that it makes, and nothing else. -/
theorem store_relay (s : Server) (room : RoomId) (sender : Identity) (kind : MessageKind)
    (content : String) :
    (s.relay room sender kind content).2.store =
      ((if kind = .chat then s.clock.map fun time => .ofClient .chat content sender room time
        else none).toList).foldl ChatStore.keep s.store := by
  by_cases reserved : kind = .roomClosed
  · simp [relay, reserved]
  · cases clock : s.clock with
    | none => simp [relay, reserved, clock]
    | some time =>
      simp only [relay, if_neg reserved, clock, Option.map_some]
      have kept : (if (Message.ofClient kind content sender room time).isChat then
            s.persist (.ofClient kind content sender room time) else s).store =
          ((if kind = .chat then some (.ofClient .chat content sender room time)
            else none).toList).foldl ChatStore.keep s.store := by
        by_cases chat : kind = .chat
        · subst chat
          exact store_persist s _
        · have other : (Message.ofClient kind content sender room time).isChat = false :=
            decide_eq_false chat
          rw [other, if_neg chat]
          rfl
      have sent := store_send (if (Message.ofClient kind content sender room time).isChat then
          s.persist (.ofClient kind content sender room time) else s) room
        (.broadcast (.ofClient kind content sender room time))
      rw [← kept, ← sent]
      split
      next heq => rw [heq]
      next heq => rw [heq]

end Server

namespace Connection

variable {c : Connection} {s : Server}

theorem store_stopping (c : Connection) (s : Server) (why : ReadEnd) :
    ((c.stopping why).foldl c.meet s).store = s.store := by
  rw [← stopReading_snd]
  exact (leads_stopReading (P := fun _ change => ∀ m, change ≠ .saved m) c s why
    fun _ _ _ _ => nofun).store_eq fun _ m saved => saved m rfl

/-- A reader that hands on a frame saves what the relay makes of it. -/
theorem store_relaying (c : Connection) (s : Server) (m : Wire.Inbound) :
    ((c.relaying s m).foldl c.meet s).store =
      (c.chatOf? s m).toList.foldl ChatStore.keep s.store := by
  have relayed : (s.relay c.participant.room c.participant.identity m.kind m.content).2.store =
      (c.chatOf? s m).toList.foldl ChatStore.keep s.store :=
    s.store_relay c.participant.room c.participant.identity m.kind m.content
  rw [← relayed]
  simp only [relaying, List.foldl_cons, meet]
  split
  · rfl
  · rfl
  · exact store_stopping c _ _
  · rfl

theorem chats_stopping (c : Connection) (s : Server) (why : ReadEnd) :
    (c.events s (c.stopping why)).filterMap Hub.Event.chat? = [] := by
  unfold stopping farewell
  cases c.linked <;> rfl

/-- A reader that hands on a frame broadcasts what the relay makes of it. -/
theorem chats_relaying (lasting : s.Lasting) (there : c.participant.room ∈ s.rooms)
    (m : Wire.Inbound) :
    (c.events s (c.relaying s m)).filterMap Hub.Event.chat? = (c.chatOf? s m).toList := by
  obtain ⟨kind, content⟩ := m
  have relayed := lasting.relay_fst there c.participant.identity kind content
  cases kind with
  | roomClosed =>
    simp only [relaying, events, event?, relayed]
    rfl
  | edit => cases clock : s.clock <;> simp only [relaying, events, event?, relayed, clock] <;> rfl
  | chat =>
    cases clock : s.clock <;> simp only [relaying, events, event?, relayed, clock, chatOf?] <;> rfl

/-- A reader stops, it takes a frame that asks for nothing, or it hands on a frame.  Only then does
the connection say something. -/
theorem readDemands_cases (c : Connection) (s : Server) :
    (∃ why, c.readDemands s = c.stopping why ∧ c.utterance? s = none) ∨
      (c.readDemands s = [] ∧ c.utterance? s = none) ∨
      ∃ m, c.readDemands s = c.relaying s m ∧ c.utterance? s = c.chatOf? s m := by
  unfold readDemands utterance?
  cases c.inbox with
  | nil => exact .inl ⟨_, rfl, rfl⟩
  | cons next rest =>
    obtain ⟨arrives, arrival⟩ := next
    dsimp only
    by_cases late : c.deadline < arrives
    · exact .inl ⟨.deadlineExceeded, by simp [late]⟩
    · rw [taking]
      cases ReadPump.judge c.config arrival with
      | stop why => exact .inl ⟨why, by simp [late]⟩
      | alive => exact .inr (.inl (by simp [late]))
      | relay m =>
        cases linked : c.linked with
        | false => exact .inl ⟨.hubGone, by simp [late]⟩
        | true => exact .inr (.inr ⟨m, by simp [late]⟩)

/-- A reader saves what the connection says. -/
theorem store_read (c : Connection) (time : Nat) (s : Server) :
    (c.read time s).2.store = (c.utterance? s).toList.foldl ChatStore.keep s.store := by
  rw [read_snd]
  obtain ⟨why, demands, silent⟩ | ⟨demands, silent⟩ | ⟨m, demands, said⟩ := c.readDemands_cases s
  · rw [demands, silent]
    exact store_stopping c s why
  · rw [demands, silent]
    rfl
  · rw [demands, said]
    exact store_relaying c s m

/-- What a connection says is just what its reader broadcasts as chat. -/
theorem chats_read (lasting : s.Lasting) (there : c.participant.room ∈ s.rooms) (time : Nat) :
    (Move.read.events c time s).filterMap Hub.Event.chat? = (c.utterance? s).toList := by
  simp only [Move.events, Move.demands]
  obtain ⟨why, demands, silent⟩ | ⟨demands, silent⟩ | ⟨m, demands, said⟩ := c.readDemands_cases s
  · rw [demands, silent]
    exact chats_stopping c s why
  · rw [demands, silent]
    rfl
  · rw [demands, said]
    exact chats_relaying lasting there m

end Connection

namespace World

/-- The chat message that is said in a happening: the one that a reader hands to the relay. -/
def said? (w : World) : Happening → Option Message
  | .step (.move room id .read) => (w.connectionIn? room id).bind (·.utterance? w.server)
  | _ => none

/-- The chat messages that are said in a history, one after the other. -/
def saidIn : World → List (Nat × Happening) → List Message
  | _, [] => []
  | w, (time, x) :: history => (w.said? x).toList ++ saidIn (w.happen time x) history

variable {w v : World} {time : Nat} {x : Happening} {m : Message}

theorem saidIn_append (w : World) (history more : List (Nat × Happening)) :
    saidIn w (history ++ more) = saidIn w history ++ saidIn (w.through history) more := by
  induction history generalizing w with
  | nil => rfl
  | cons x history ih =>
    simp only [List.cons_append, saidIn, ih, List.append_assoc]
    rfl

/-- A message is said by a connection whose reader takes a frame. -/
theorem connection_of_said? (said : w.said? x = some m) :
    ∃ c, x = .step (.move c.participant.room c.participant.id .read) ∧
      w.connectionIn? c.participant.room c.participant.id = some c ∧
      c.utterance? w.server = some m := by
  unfold said? at said
  split at said
  next room id =>
    obtain ⟨c, found, own⟩ := Option.bind_eq_some_iff.1 said
    obtain ⟨rfl, rfl⟩ := participant_of_connectionIn? found
    exact ⟨c, rfl, found, own⟩
  · cases said

theorem kind_of_mem_saidIn {history : List (Nat × Happening)} (said : m ∈ saidIn w history) :
    m.kind = .chat := by
  induction history generalizing w with
  | nil => cases said
  | cons x history ih =>
    rcases List.mem_append.1 said with now | later
    · obtain ⟨c, -, -, own⟩ := connection_of_said? (Option.mem_toList.1 now)
      exact Connection.kind_of_utterance? own
    · exact ih later

/-- Nothing but what is said in a happening is saved in it. -/
theorem store_happen (w : World) (time : Nat) (x : Happening) :
    (w.happen time x).server.store = (w.said? x).toList.foldl ChatStore.keep w.server.store := by
  have unsaved (unread : ∀ c : Connection,
      x ≠ .step (.move c.participant.room c.participant.id .read)) :
      (w.happen time x).server.store = w.server.store := by
    refine ((leads_happen w time x).store_eq fun room m saved => ?_).trans ?_
    · cases saved with
      | @saved c => exact unread c rfl
    · cases x with
      | step x => cases x <;> rfl
      | _ => rfl
  cases x with
  | step x =>
    cases x with
    | move room id move =>
      cases move with
      | read =>
        cases found : w.connectionIn? room id with
        | none => simp only [World.happen, said?, step_move_of_none found, found]; rfl
        | some c =>
          simp only [World.happen, said?, step_move_of_some found, found, Option.bind_some]
          exact c.store_read time w.server
      | _ => exact unsaved fun _ => by rintro ⟨⟩
    | _ => exact unsaved fun _ => by rintro ⟨⟩
  | _ => exact unsaved fun _ => by rintro ⟨⟩

/-- A world saves what is said, as soon as it is said. -/
theorem store_through (w : World) (history : List (Nat × Happening)) :
    (w.through history).server.store = (saidIn w history).foldl ChatStore.keep w.server.store := by
  induction history generalizing w with
  | nil => rfl
  | cons x history ih =>
    refine (ih _).trans ?_
    rw [store_happen, saidIn, List.foldl_append]

theorem Twin.said?_eq (h : Twin w v) (x : Happening) : w.said? x = v.said? x := by
  unfold said?
  split
  · rw [h.connectionIn?_eq]
    simp only [Connection.utterance?, Connection.chatOf?, h.server.clock]
  · rfl

end World

/-! ### Saving later -/

/-- A world with the messages that are yet to be saved, oldest first. -/
structure Backlog where
  world : World
  unsaved : List Message

namespace Backlog

open World

/-- What happens to a backlog: something in its world, or the oldest message is saved. -/
inductive Event where
  | happens (time : Nat) (x : Happening)
  | saves

/-- A world in which nothing is yet to be saved. -/
def start (w : World) : Backlog := ⟨w, []⟩

/-- What is said is not saved at once; what becomes of the world does not depend on its store
then. -/
def step (b : Backlog) : Event → Backlog
  | .happens time x =>
    match b.world.said? x with
    | none => { b with world := b.world.happen time x }
    | some m =>
      let silent := b.world.withStore (.log (.withCapacity 1))
      ⟨(silent.happen time x).withStore b.world.server.store, b.unsaved ++ [m]⟩
  | .saves =>
    match b.unsaved with
    | [] => b
    | m :: rest => ⟨{ b.world with server := b.world.server.persist m }, rest⟩

/-- A backlog after a list of events. -/
def after (b : Backlog) (events : List Event) : Backlog := events.foldl step b

/-- What happens in the world. -/
def happenings (events : List Event) : List (Nat × Happening) :=
  events.filterMap fun
    | .happens time x => some (time, x)
    | .saves => none

variable {w : World} {b : Backlog}

theorem happenings_append (events more : List Event) :
    happenings (events ++ more) = happenings events ++ happenings more :=
  List.filterMap_append

/-- Saving later makes no difference to a world but for its chat log. -/
theorem twin_after (w : World) (events : List Event) :
    Twin ((start w).after events).world (w.through (happenings events)) := by
  induction events using List.reverseRecOn with
  | nil => exact .refl w
  | append_singleton events e ih =>
    rw [happenings_append, through_append]
    simp only [after, List.foldl_append, List.foldl_cons, List.foldl_nil] at ih ⊢
    generalize events.foldl step (start w) = b at ih ⊢
    cases e with
    | happens time x =>
      have later := ih.happen time x
      simp only [step, happenings]
      cases b.world.said? x with
      | none => exact later
      | some m =>
        have silent := (twin_withStore b.world (.log (.withCapacity 1))).happen time x
        exact ((twin_withStore _ _).trans silent).trans later
    | saves =>
      simp only [step]
      cases b.unsaved with
      | nil => exact ih
      | cons m rest =>
        have saved : Twin { b.world with server := b.world.server.persist m } b.world :=
          twin_withServer _ (twin_persist _ m)
        exact saved.trans ih

/-- What was said is what was saved, followed by what is yet to be saved. -/
theorem log_after (w : World) (events : List Event) :
    ∃ saved, saidIn w (happenings events) = saved ++ ((start w).after events).unsaved ∧
      ((start w).after events).world.server.store =
        saved.foldl ChatStore.keep w.server.store := by
  induction events using List.reverseRecOn with
  | nil => exact ⟨[], rfl, rfl⟩
  | append_singleton events e ih =>
    obtain ⟨saved, said, kept⟩ := ih
    have twin := twin_after w events
    rw [happenings_append, saidIn_append, said]
    simp only [after, List.foldl_append, List.foldl_cons, List.foldl_nil] at kept twin ⊢
    generalize events.foldl step (start w) = b at kept twin ⊢
    cases e with
    | happens time x =>
      have same : saidIn (w.through (happenings events)) (happenings [.happens time x]) =
          (b.world.said? x).toList := by
        rw [twin.said?_eq]
        exact List.append_nil _
      rw [same]
      simp only [step]
      cases silent : b.world.said? x with
      | none =>
        refine ⟨saved, by simp, ?_⟩
        rw [store_happen, silent, kept]
        rfl
      | some m => exact ⟨saved, by simp, kept⟩
    | saves =>
      simp only [step]
      cases waiting : b.unsaved with
      | nil => exact ⟨saved, by simp [happenings, saidIn, waiting], kept⟩
      | cons m rest =>
        refine ⟨saved ++ [m], by simp [happenings, saidIn], ?_⟩
        dsimp only
        rw [store_persist, kept, List.foldl_append]
        rfl

end Backlog

/-- A server starts with the chat log that it is given. -/
theorem Server.store_start {settings : Settings} {store : ChatStore}
    {clock : Option Calendar.Instant} {now : Nat} {s : Server}
    (started : Server.start settings store clock now = .ok s) : s.store = store := by
  unfold Server.start at started
  split_ifs at started
  cases started
  rfl

namespace World

/-- A connection of a world says a message: it makes it of a chat frame that its reader takes in
time, and the reader goes on. -/
structure Says (w : World) (time : Nat) (x : Happening) (m : Message) (c : Connection)
    (inbound : Wire.Inbound) : Prop where
  connected : w.connectionIn? c.participant.room c.participant.id = some c
  reads : x = .step (.move c.participant.room c.participant.id .read)
  frame : ∃ arrives f rest, c.inbox = (arrives, .frame f) :: rest ∧ arrives ≤ c.deadline ∧
    ReadPump.judge c.config (.frame f) = .relay inbound
  chat : inbound.kind = .chat
  message : w.server.clock = some m.timestamp ∧ m.kind = .chat ∧
    m.senderId = c.participant.identity.userId ∧
    m.senderName = c.participant.identity.displayName ∧ m.content = inbound.content ∧
    m.roomId = c.participant.room
  goesOn : (c.read time w.server).1.reading = c.reading ∧
    (c.read time w.server).1.crashed = c.crashed

theorem Lasting.said {w : World} {time : Nat} {x : Happening} {m : Message} (lasting : w.Lasting)
    (said : w.said? x = some m) : ∃ c inbound, w.Says time x m c inbound := by
  obtain ⟨c, reads, connected, own⟩ := connection_of_said? said
  have there := (lasting.linked c (mem_of_connectionIn? connected)).2
  have goesOn := Connection.read_of_utterance? lasting.server there own time
  obtain ⟨arrives, f, rest, inbound, shown, waiting, due, -, judged, chat, clock, rfl⟩ :=
    Connection.eq_of_utterance? own
  exact ⟨c, inbound, connected, reads, ⟨arrives, f, rest, waiting, due, judged⟩, chat,
    ⟨clock, rfl, rfl, rfl, rfl, rfl⟩, goesOn⟩

/-- The chat log of a room has the last of the chat messages that the readers of its connections
handed to the relay, in the same order and each with its sender, its content and its time, once none
of them is yet to be saved; a world that saves them at once has them all the time.  Every one of these
messages comes from a chat frame of a connection whose reader goes on, in its sender's name, with the
time on the clock and for the room of the connection; they are just the chat messages that readers
broadcast. -/
theorem chat_history {settings : Settings} {capacity : Nat} {clock : Option Calendar.Instant}
    {now : Nat} {s : Server}
    (started : Server.start settings (.log (.withCapacity capacity)) clock now = .ok s)
    (events : List Backlog.Event) :
    let lastOf (room : RoomId) (said : List Message) : List ChatLogEntry :=
      ((said.filter (·.roomId = room)).map fun m =>
        { roomId := room, senderId := m.senderId, senderName := m.senderName
          content := m.content, timestamp := m.timestamp }).rtake (max capacity 1)
    (((Backlog.start (ofServer s)).after events).unsaved = [] → ∀ room,
      ((Backlog.start (ofServer s)).after events).world.server.chatLog room =
        .ok (lastOf room (saidIn (ofServer s) (Backlog.happenings events)))) ∧
    (∀ history room, ((ofServer s).through history).server.chatLog room =
      .ok (lastOf room (saidIn (ofServer s) history))) ∧
    (∀ history time x m, ((ofServer s).through history).said? x = some m →
      ∃ c inbound, ((ofServer s).through history).Says time x m c inbound) ∧
    ∀ history, ∀ c ∈ ((ofServer s).through history).connections, ∀ time,
      (Connection.Move.read.events c time ((ofServer s).through history).server).filterMap
        Hub.Event.chat? = (c.utterance? ((ofServer s).through history).server).toList := by
  intro lastOf
  have store := Server.store_start started
  have chats : ∀ history, ∀ m ∈ saidIn (ofServer s) history, m.kind = .chat :=
    fun _ _ said => kind_of_mem_saidIn said
  have lasting := fun history => (lasting_start started).through history
  refine ⟨fun none_waits room => ?_, fun history room => ?_, fun history time x m said => ?_,
    fun history c there time => ?_⟩
  · obtain ⟨saved, said, kept⟩ := Backlog.log_after (ofServer s) events
    rw [none_waits, List.append_nil] at said
    subst said
    rw [chatLog, kept, ← ChatStore.list_foldl_keep capacity (chats _) room, ← store]
    rfl
  · rw [chatLog, store_through, ← ChatStore.list_foldl_keep capacity (chats _) room, ← store]
    rfl
  · exact (lasting history).said said
  · exact Connection.chats_read (lasting history).server ((lasting history).linked c there).2 time

/-- Ann enters the studio and says two things, which are then saved. -/
def talk : List Backlog.Event :=
  [.happens 0 (.step (.setClocks (some .epoch) 0)), .happens 0 (.resolve Sample.studio),
    .happens 0 (.enroll Sample.annId Sample.ann Sample.studio),
    .happens 1 (.step (.move Sample.studio Sample.annId
      (.hear (.text "\x7b\"type\":\"chat\",\"content\":\"one\"\x7d")))),
    .happens 2 (.step (.move Sample.studio Sample.annId
      (.hear (.text "\x7b\"type\":\"chat\",\"content\":\"two\"\x7d")))),
    .happens 3 (.step (.move Sample.studio Sample.annId .read)),
    .happens 4 (.step (.move Sample.studio Sample.annId .read)), .saves, .saves]

/-- A log for one message has the last of the two. -/
theorem chat_history_talk :
    Server.start Sample.settings (.log (.withCapacity 1)) none 0 = .ok Sample.server ∧
      saidIn (ofServer Sample.server) (Backlog.happenings talk) =
        [Sample.saying "one", Sample.saying "two"] ∧
      ((Backlog.start (ofServer Sample.server)).after talk).world.server.chatLog Sample.studio =
        .ok [⟨Sample.studio, Sample.ann.userId, Sample.ann.displayName, "two", .epoch⟩] := by
  have started : Server.start Sample.settings (.log (.withCapacity 1)) none 0 = .ok Sample.server :=
    rfl
  have said : saidIn (ofServer Sample.server) (Backlog.happenings talk) =
      [Sample.saying "one", Sample.saying "two"] := by decide +kernel
  have saved : ((Backlog.start (ofServer Sample.server)).after talk).unsaved = [] := by
    decide +kernel
  have law := (chat_history started talk).1 saved Sample.studio
  rw [said] at law
  exact ⟨started, said, law⟩

end World
end RoomHub
