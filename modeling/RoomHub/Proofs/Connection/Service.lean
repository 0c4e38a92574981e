import RoomHub.Proofs.Connection.Moves
import RoomHub.Proofs.Hub.Joining
import RoomHub.Proofs.Schedule

/-!
# Serving a connection

A `Service` is a connection with its server while it is served.  What happens meanwhile is a list of
`Incident`s, each with its time: the connection and its peer make moves, others turn to hubs, hubs
begin and stop.  A move of the connection is made when it is due or later, and others do not act for
the connection; beyond that incidents come in any order (`allows`).  `hub?_step` is all that an
incident can do to the hub of the connection's room.  What a world with one connection does is among
these courses (`runTurns_world`).
-/

namespace RoomHub

open Calendar

namespace Server

variable {s : Server} {room r : RoomId}

theorem hub?_stopHub (s : Server) (room r : RoomId) :
    (s.stopHub room).hub? r = if r = room then (s.hub? r).map Hub.stop else s.hub? r := by
  unfold stopHub
  split
  next hub known =>
    have own : hub.room = room := room_of_hub? known
    rw [hub?_putHub, show hub.stop.room = room from own]
    by_cases same : room = r
    · subst same
      simp [known]
    · simp [same, Ne.symm same]
  next absent =>
    split_ifs with same
    · simp [same, absent]
    · rfl

/-- A room that is resolved keeps its hub or gets its first. -/
theorem hub?_resolve_or (s : Server) (room r : RoomId) :
    ((s.resolve room).toOption.getD s).hub? r = s.hub? r ∨
      s.hub? r = none ∧ ((s.resolve room).toOption.getD s).hub? r = some (Hub.start r) := by
  unfold resolve
  split
  · exact .inl rfl
  next new =>
    split_ifs
    · have look := hub?_append s (Hub.start room) r
      by_cases same : room = r
      · subst same
        rw [new, if_pos (show (Hub.start room).room = room from rfl)] at look
        exact .inr ⟨new, look⟩
      · rw [if_neg (show ¬ (Hub.start room).room = r from same), Option.or_none] at look
        exact .inl look
    · exact .inl rfl

/-- What somebody else does to a hub: a receiver acts on its outbox, or an event is sent. -/
def undergo (s : Server) (room : RoomId) (e : Hub.Event) : Server :=
  if e.isReceivers then s.receive room e else (s.send room e).2

theorem undergoes_undergo (s : Server) (room : RoomId) (e : Hub.Event) :
    Undergoes room [e] s (s.undergo room e) := by
  unfold undergo
  split_ifs with receivers
  · exact undergoes_receive s room receivers
  · exact undergoes_send s room (by simpa using receivers)

end Server

/-- A connection that is served, with its server and the time. -/
structure Service where
  now : Nat
  connection : Connection
  server : Server

namespace Service

/-- One thing that happens while a connection is served. -/
inductive Incident where
  /-- The connection or its peer makes a move. -/
  | own (m : Connection.Move)
  /-- Somebody else turns to the hub of a room. -/
  | other (room : RoomId) (e : Hub.Event)
  /-- A message enters the chat log. -/
  | saved (m : Message)
  /-- A room is resolved, so that it has a hub. -/
  | founded (room : RoomId)
  /-- The loop of a room's hub stops. -/
  | stopped (room : RoomId)
  /-- The hub of the connection's room is gone: it stops, and the connection cannot reach it. -/
  | cutOff
  /-- The clocks are set, the one that messages show and the one that tokens are verified by. -/
  | setClocks (clock : Option Instant) (now : Nat)

/-- A connection that begins to be served. -/
def start (now : Nat) (c : Connection) (s : Server) : Service := ⟨now, c, c.release s⟩

/-- The room of the connection. -/
def room (x : Service) : RoomId := x.connection.participant.room

/-- The connection's id. -/
def self (x : Service) : ConnectionId := x.connection.participant.id

/-- The hub of the connection's room. -/
def hub? (x : Service) : Option Hub := x.server.hub? x.room

/-- Whether the connection is a member of its room. -/
def IsMember (x : Service) : Prop := ∃ hub, x.hub? = some hub ∧ x.self ∈ hub.members.map (·.id)

/-- What an incident makes of a service. -/
def step (x : Service) (time : Nat) : Incident → Service
  | .own m =>
    let (c, s) := m.perform x.connection time x.server
    ⟨time, c, s⟩
  | .other room e => { x with now := time, server := x.server.undergo room e }
  | .saved m => { x with now := time, server := x.server.persist m }
  | .founded room =>
    { x with now := time, server := (x.server.resolve room).toOption.getD x.server }
  | .stopped room => { x with now := time, server := x.server.stopHub room }
  | .cutOff => ⟨time, { x.connection with linked := false }, x.server.stopHub x.room⟩
  | .setClocks clock now => { x with now := time, server := { x.server with clock, now } }

/-- A service after a course of incidents. -/
def after (x : Service) (course : List (Nat × Incident)) : Service :=
  course.foldl (fun x i => x.step i.1 i.2) x

/-- Whether an incident can come at a time: no earlier than what came before it and, if it is a move
of the connection, not before that is due.  Others do not register or unregister the connection, nor
do they take what is in its outbox. -/
def allows (x : Service) (time : Nat) : Incident → Bool
  | .own m => (m.dueAt x.connection x.now x.server).any (· ≤ time)
  | .other room e =>
    x.now ≤ time && (room ≠ x.room || e.concerns x.self == false || e.message?.isSome)
  | _ => x.now ≤ time

/-- Whether a course can come. -/
def allowed : Service → List (Nat × Incident) → Bool
  | _, [] => true
  | x, (time, i) :: course => x.allows time i && (x.step time i).allowed course

/-- What the connection demands of its server in an incident. -/
def demands (x : Service) (time : Nat) : Incident → List Connection.Demand
  | .own m => m.demands x.connection time x.server
  | _ => []

/-- The events that reach the hub of the connection's room in an incident. -/
def hears (x : Service) (time : Nat) : Incident → List Hub.Event
  | .own m => m.events x.connection time x.server
  | .other room e => if room = x.room then [e] else []
  | _ => []

/-- What the incidents of a course bring with them, one after the other. -/
def along {α : Type} (brings : Service → Nat → Incident → List α) :
    Service → List (Nat × Incident) → List α
  | _, [] => []
  | x, (time, i) :: course => brings x time i ++ along brings (x.step time i) course

variable {x : Service} {time : Nat} {i : Incident} {course more : List (Nat × Incident)}

theorem allowed_append :
    x.allowed (course ++ more) = true ↔
      x.allowed course = true ∧ (x.after course).allowed more = true := by
  induction course generalizing x with
  | nil => simp [allowed, after]
  | cons i course ih =>
    simp only [List.cons_append, allowed, Bool.and_eq_true, ih, and_assoc]
    rfl

/-- What every incident keeps is kept by a course. -/
theorem kept_after {P : Service → Prop}
    (kept : ∀ {y : Service} {t : Nat} {j : Incident}, P y → y.allows t j = true → P (y.step t j))
    (holds : P x) (allowed : x.allowed course = true) : P (x.after course) := by
  induction course generalizing x with
  | nil => exact holds
  | cons i course ih =>
    obtain ⟨first, rest⟩ := Bool.and_eq_true_iff.1 allowed
    exact ih (kept holds first) rest

/-! ### One incident -/

theorem participant_step (x : Service) (time : Nat) (i : Incident) :
    (x.step time i).connection.participant = x.connection.participant := by
  cases i with
  | own m => exact Connection.participant_perform m x.connection time x.server
  | _ => rfl

theorem room_step (x : Service) (time : Nat) (i : Incident) : (x.step time i).room = x.room :=
  congrArg Participant.room (participant_step x time i)

theorem self_step (x : Service) (time : Nat) (i : Incident) : (x.step time i).self = x.self :=
  congrArg Participant.id (participant_step x time i)

theorem participant_after (x : Service) (course : List (Nat × Incident)) :
    (x.after course).connection.participant = x.connection.participant := by
  induction course generalizing x with
  | nil => rfl
  | cons i course ih => exact (ih (x.step i.1 i.2)).trans (participant_step x i.1 i.2)

theorem room_after (x : Service) (course : List (Nat × Incident)) :
    (x.after course).room = x.room :=
  congrArg Participant.room (participant_after x course)

theorem self_after (x : Service) (course : List (Nat × Incident)) :
    (x.after course).self = x.self :=
  congrArg Participant.id (participant_after x course)

theorem undergoes_step_own (x : Service) (time : Nat) (m : Connection.Move) :
    Server.Undergoes x.room (x.hears time (.own m)) x.server (x.step time (.own m)).server :=
  x.connection.undergoes_perform time x.server m

theorem hub?_step_own (x : Service) (time : Nat) (m : Connection.Move) :
    (x.step time (.own m)).hub? =
      x.hub?.map fun hub => (x.hears time (.own m)).foldl Hub.obey hub := by
  rw [hub?, room_step, x.undergoes_step_own time m, if_pos rfl]
  rfl

theorem hub?_step_cutOff (x : Service) (time : Nat) :
    (x.step time .cutOff).hub? = x.hub?.map Hub.stop :=
  (Server.hub?_stopHub x.server x.room x.room).trans (if_pos rfl)

/-- The hub of the connection's room handles what reaches it, or it stops, or it begins. -/
theorem hub?_step (x : Service) (time : Nat) (i : Incident) :
    (x.step time i).hub? = x.hub?.map (fun hub => (x.hears time i).foldl Hub.obey hub) ∨
      (x.step time i).hub? = x.hub?.map Hub.stop ∨
      (x.hub? = none ∧ (x.step time i).hub? = some (Hub.start x.room)) := by
  have still {s : Server} (same : s.hub? x.room = x.hub?) :
      s.hub? x.room = x.hub?.map fun hub => [].foldl Hub.obey hub := by
    simpa using same
  cases i with
  | own m => exact .inl (x.hub?_step_own time m)
  | other room e =>
    have done := Server.undergoes_undergo x.server room e x.room
    refine .inl (done.trans ?_)
    simp only [hears, eq_comm (a := x.room)]
    split_ifs
    · rfl
    · exact still rfl
  | saved m => exact .inl (still (by simp only [step, Server.hub?, Server.hubs_persist]; rfl))
  | founded room =>
    rcases Server.hub?_resolve_or x.server room x.room with same | ⟨new, first⟩
    · exact .inl (still same)
    · exact .inr (.inr ⟨new, first⟩)
  | stopped room =>
    have done := Server.hub?_stopHub x.server room x.room
    split_ifs at done
    · exact .inr (.inl done)
    · exact .inl (still done)
  | cutOff => exact .inr (.inl (x.hub?_step_cutOff time))
  | setClocks clock now => exact .inl (still rfl)

/-- A hub after an incident is what was there before, having handled what reached it or having
stopped, or it is new. -/
theorem hub?_step_cases {hub' : Hub} (known' : (x.step time i).hub? = some hub') :
    (∃ hub, x.hub? = some hub ∧ hub' = (x.hears time i).foldl Hub.obey hub) ∨
      (∃ hub, x.hub? = some hub ∧ hub' = hub.stop) ∨ hub' = Hub.start x.room := by
  rcases x.hub?_step time i with heard | stopped | ⟨-, begun⟩
  · rw [heard, Option.map_eq_some_iff] at known'
    obtain ⟨hub, known, same⟩ := known'
    exact .inl ⟨hub, known, same.symm⟩
  · rw [stopped, Option.map_eq_some_iff] at known'
    obtain ⟨hub, known, same⟩ := known'
    exact .inr (.inl ⟨hub, known, same.symm⟩)
  · exact .inr (.inr (Option.some.inj (known'.symm.trans begun)))

theorem due_of_allows {m : Connection.Move} (allows : x.allows time (.own m) = true) :
    (m.dueAt x.connection x.now x.server).isSome = true := by
  simp only [Service.allows] at allows
  cases due : m.dueAt x.connection x.now x.server with
  | none => simp [due] at allows
  | some instant => rfl

theorem outcome_step {m : Connection.Move} (allows : x.allows time (.own m) = true) :
    x.connection.Outcome (x.step time (.own m)).connection (x.demands time (.own m))
      (x.hears time (.own m)) :=
  x.connection.outcome_perform time x.server m (due_of_allows allows)

/-! ### Worlds with one connection -/

/-- A connection in a world of its own, in which others broadcast what is in the feed. -/
def world (x : Service) (feed : List (Nat × RoomId × Message)) : World :=
  ⟨x.now, x.server, [x.connection], feed⟩

theorem serve_eq_world (now : Nat) (c : Connection) (s : Server)
    (feed : List (Nat × RoomId × Message)) :
    (⟨now, s, [], feed⟩ : World).serve c = (start now c s).world feed := rfl

/-- A turn of such a world is an incident. -/
theorem perform_world {feed : List (Nat × RoomId × Message)} {turn : Turn}
    (listed : (time, turn) ∈ (x.world feed).turns) :
    ∃ i rest, x.allows time i = true ∧
      (x.world feed).perform time turn = (x.step time i).world rest := by
  have own (m : Connection.Move) (ready : m.dueAt x.connection x.now x.server = some time) :
      ∃ i rest, x.allows time i = true ∧
        (x.world feed).act time 0 m.perform = (x.step time i).world rest :=
    ⟨.own m, feed, by simp [Service.allows, ready], rfl⟩
  simp only [World.turns, world, List.zipIdx_cons, List.zipIdx_nil, List.flatMap_cons,
    List.flatMap_nil, List.append_nil, List.mem_append, timed, Option.mem_toList,
    Option.map_eq_some_iff, Prod.mk.injEq] at listed
  obtain ((⟨_, ready, rfl, rfl⟩ | ⟨_, ⟨⟨arrives, room, message⟩, next, rfl⟩, rfl, rfl⟩) |
    ⟨_, ready, rfl, rfl⟩ | ⟨_, ready, rfl, rfl⟩ | ⟨_, ready, rfl, rfl⟩) | ⟨_, ready, rfl, rfl⟩ :=
      listed
  · exact own .read ready
  · obtain ⟨rest, rfl⟩ : ∃ rest, feed = (arrives, room, message) :: rest := by
      cases feed with
      | nil => cases next
      | cons head rest => exact ⟨rest, by rw [Option.some.inj next]⟩
    have later : x.now ≤ max x.now arrives := Nat.le_max_left ..
    exact ⟨.other room (.broadcast message), rest,
      Bool.and_eq_true_iff.2 ⟨decide_eq_true later, by simp [Hub.Event.message?]⟩, rfl⟩
  · exact own (.write .settle) ready
  · exact own (.write .queue) ready
  · exact own (.write .tick) ready
  · exact own .conclude ready

/-- What a world with one connection does by itself is a course of incidents. -/
theorem runTurns_world (x : Service) (feed : List (Nat × RoomId × Message)) (done : World → Bool)
    (horizon fuel : Nat) :
    ∃ course rest, x.allowed course = true ∧
      (x.world feed).runTurns done horizon fuel = (x.after course).world rest := by
  induction fuel generalizing x feed with
  | zero => exact ⟨[], feed, rfl, rfl⟩
  | succ fuel ih =>
    unfold World.runTurns
    split_ifs
    · exact ⟨[], feed, rfl, rfl⟩
    · split
      next time turn first =>
        split_ifs
        · obtain ⟨i, rest, allows, same⟩ := perform_world (mem_of_earliest first)
          obtain ⟨course, left, allowed, later⟩ := ih (x.step time i) rest
          refine ⟨(time, i) :: course, left, Bool.and_eq_true_iff.2 ⟨allows, allowed⟩, ?_⟩
          rw [same, later]
          rfl
        · exact ⟨[], feed, rfl, rfl⟩
      · exact ⟨[], feed, rfl, rfl⟩

/-! ### A stalled connection -/

/-- A server on which every outbox holds one message. -/
def narrow : Server :=
  { Sample.server with
      clock := some .epoch
      settings := { Sample.settings with config := { queueCapacity := 1 } } }

open Sample in
/-- `ann` in the studio: her peer takes five seconds for each frame and speaks after one. -/
def stalled : Service :=
  start 0
    { Connection.start ⟨annId, ann, studio, ⟨annId, 0⟩⟩ narrow.settings.config 0 with
      sink := fun _ => .lasts 5000 none
      inbox := [(1000, .frame (.text "\x7b\"type\":\"chat\",\"content\":\"hi\"\x7d"))] }
    (narrow.admitUser annId ann studio).2

open Sample in
/-- While the first of three messages is being written to her, the third evicts `ann`; then her
reader goes on. -/
def eviction : List (Nat × Incident) :=
  [(0, .other studio (.broadcast (saying "one"))), (0, .own (.write .queue)),
    (0, .other studio (.broadcast (saying "two"))),
    (0, .other studio (.broadcast (saying "three"))), (1000, .own .read)]

end Service
end RoomHub
