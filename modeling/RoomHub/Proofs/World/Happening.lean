import RoomHub.Proofs.Connection.Moves
import RoomHub.Proofs.Http.Refusals
import RoomHub.Proofs.Sample
import RoomHub.Proofs.Server.Rooms
import RoomHub.Proofs.World.Steps

/-!
# Histories in which admissions come apart

An admission turns to the registry and to the hub of its room three times: it gets the hub, it
announces its user and it enrolls the connection.  Others may come in between.  A `Happening` is a
step of a course or one of these parts; `through` makes a whole history of them, and a request that
is admitted at once is one that is answered and then makes its parts one after the other
(`step_request_eq_through`).

`Happening.Causes` lists all that a happening can do to rooms, and `leads_happen` says that nothing
else happens: a hub is founded only by an admission that is executed, a message is saved only by a
reader, and only data frames of connections, admissions and closings are broadcast.
`Happening.Connects` does the same for the connections.  In a `Lasting` world all hubs run and every
connection can reach the hub of its room.
-/

namespace RoomHub

open Http

namespace Server

/-- Tells the members of a room that somebody comes, unless nobody could be admitted. -/
def announce (s : Server) (user : Identity) (room : RoomId) : Server :=
  match s.clock, canHold s.settings.config.queueCapacity with
  | some time, true => (s.send room (.broadcast (.joined user room time))).2
  | _, _ => s

/-- A server on which somebody has asked for the hub of a room. -/
def resolved (s : Server) (room : RoomId) : Server :=
  match s.resolve room with
  | .ok t => t
  | .error _ => s

theorem mem_rooms_resolved {s : Server} (fits : canHold s.settings.intakeCapacity = true)
    (room : RoomId) : room ∈ (s.resolved room).rooms := by
  obtain ⟨t, found⟩ := resolve_of_canHold fits room
  simp only [resolved, found]
  exact mem_rooms_resolve found

/-- Who has become a member is in a room with a hub. -/
theorem mem_rooms_of_register {s t : Server} {room : RoomId} {id : ConnectionId} {user : Identity}
    {capacity : Nat} {queue : QueueId}
    (entered : s.register room id user capacity = (.ok queue, t)) : room ∈ t.rooms := by
  have leads := leads_register (P := fun _ _ => True) s room id user capacity fun _ =>
    trivial
  rw [entered] at leads
  refine leads.mem_rooms (mem_rooms_iff.2 ?_)
  unfold register at entered
  split_ifs at entered
  · cases known : s.hub? room with
    | none => simp [known] at entered
    | some hub => rfl
  · cases entered

end Server

namespace World

open Server

/-- Enrolls an announced user over an opened socket, as the connection `id`. -/
def enroll (w : World) (id : ConnectionId) (user : Identity) (room : RoomId) : World :=
  match w.server.register room id user w.server.settings.config.queueCapacity with
  | (.ok queue, s) =>
    { w with server := s.report [.admitted user.userId room id] }.serve
      (opened ⟨id, user, room, queue⟩ s w.now)
  | (.error (.refused why), s) =>
    { w with server := s.report [.upgradeNotAdmitted (.hubUnavailable why)] }
  | (.error (.crashed _), s) => { w with server := s }

/-- What enrolling does to a world: it opens a connection, or it fails to. -/
theorem enroll_cases (w : World) (id : ConnectionId) (user : Identity) (room : RoomId) :
    (∃ queue s, w.server.register room id user w.server.settings.config.queueCapacity =
        (.ok queue, s) ∧
      w.enroll id user room =
        { w with
            server := (opened ⟨id, user, room, queue⟩ s w.now).release
              (s.report [.admitted user.userId room id])
            connections := w.connections ++ [opened ⟨id, user, room, queue⟩ s w.now] }) ∨
    ∃ why s notices, w.server.register room id user w.server.settings.config.queueCapacity =
        (.error why, s) ∧ w.enroll id user room = { w with server := s.report notices } := by
  unfold enroll
  rcases w.server.register room id user w.server.settings.config.queueCapacity with ⟨result, s⟩
  cases result with
  | ok queue => exact .inl ⟨queue, s, rfl, rfl⟩
  | error why =>
    refine .inr ⟨why, s, ?_⟩
    cases why with
    | refused why => exact ⟨_, rfl, rfl⟩
    | crashed crash => exact ⟨[], rfl, by simp [Server.report]⟩

/-- One thing that happens to a world. -/
inductive Happening where
  | step (x : Step)
  /-- A request is answered; if the answer opens a socket, the admission is yet to come. -/
  | ask (r : Request)
  /-- An admission gets the hub of its room. -/
  | resolve (room : RoomId)
  /-- An admission announces its user. -/
  | announce (user : Identity) (room : RoomId)
  /-- An admission enrolls its user as the connection `id`. -/
  | enroll (id : ConnectionId) (user : Identity) (room : RoomId)

/-- A server with the clocks that a happening sets. -/
def Happening.dated : Happening → Server → Server
  | .step x, s => x.dated s
  | .ask _, s | .resolve _, s | .announce _ _, s | .enroll _ _ _, s => s

/-- The world after something has happened at a time. -/
def happen (w : World) (time : Nat) : Happening → World
  | .step x => w.step time x
  | .ask r => { w with now := time, server := (w.server.answer r).server }
  | .resolve room => { w with now := time, server := w.server.resolved room }
  | .announce user room => { w with now := time, server := w.server.announce user room }
  | .enroll id user room => { w with now := time }.enroll id user room

/-- The world after a history. -/
def through (w : World) (history : List (Nat × Happening)) : World :=
  history.foldl (fun w x => w.happen x.1 x.2) w

theorem through_append (w : World) (history more : List (Nat × Happening)) :
    w.through (history ++ more) = (w.through history).through more := by
  simp [through]

theorem through_concat (w : World) (history : List (Nat × Happening)) (time : Nat) (x : Happening) :
    w.through (history ++ [(time, x)]) = (w.through history).happen time x := by
  simp [through]

/-- What every happening keeps holds after any history. -/
theorem through_of_happen {P : World → Prop} (kept : ∀ w time x, P w → P (w.happen time x))
    {w : World} (start : P w) (history : List (Nat × Happening)) : P (w.through history) := by
  induction history generalizing w with
  | nil => exact start
  | cons x history ih => exact ih (kept w x.1 x.2 start)

/-- Ann enters the studio, unannounced. -/
def annEnters : List (Nat × Happening) :=
  [(0, .resolve Sample.studio), (0, .enroll Sample.annId Sample.ann Sample.studio)]

/-- A course is a history. -/
theorem through_steps (w : World) (course : List (Nat × Step)) :
    w.through (course.map fun x => (x.1, .step x.2)) = w.after course := by
  simp only [through, after, List.foldl_map, happen]

/-- An admission in one go makes its parts one after the other. -/
theorem step_request_eq_through {w : World} {r : Request} {user : Identity} {room : RoomId}
    {shown : Calendar.Instant} {t : Server}
    (enters : (w.server.answer r).entering = some (user, room))
    (clock : t.clock = some shown) (found : (w.server.answer r).server.resolve room = .ok t)
    (time : Nat) (id : ConnectionId) :
    w.step time (.request id r) =
      w.through [(time, .ask r), (time, .resolve room), (time, .announce user room),
        (time, .enroll id user room)] := by
  simp only [through, List.foldl_cons, List.foldl_nil, happen, resolved, found, Server.announce]
  simp only [step, answer, enters, enter, admitUser, found, clock, World.enroll]
  cases fits : canHold t.settings.config.queueCapacity with
  | false => simp [register, fits]
  | true =>
    obtain failed | ⟨hub, notices, known, running, done⟩ :=
      send_cases t room (.broadcast (.joined user room shown))
    · -- a hub that does not take the announcement takes no registration either
      dsimp only
      rw [failed]
      have refused : t.register room id user t.settings.config.queueCapacity =
          (.error (.refused ⟨room⟩), t) := by
        unfold send at failed
        unfold register send
        rw [if_pos fits]
        cases known : t.hub? room with
        | none => rfl
        | some hub =>
          rw [known] at failed
          dsimp only at failed ⊢
          split_ifs at failed ⊢
          · cases failed
          · rfl
      simp only [refused]
    · obtain ⟨queue, u, registered⟩ := register_after_send done fits id user
      dsimp only
      rw [done]
      simp only [settings_report, settings_putHub, registered]
      rfl

/-- The request that a happening answers. -/
def Happening.request? : Happening → Option Request
  | .step (.request _ r) | .ask r => some r
  | .step (.move _ _ _) | .step (.setClocks _ _) | .resolve _ | .announce _ _
  | .enroll _ _ _ => none

/-- An admission to a room is executed. -/
inductive Happening.Reaches (w : World) : Happening → RoomId → Prop
  | request {id : ConnectionId} {r : Request} {user : Identity} {room : RoomId}
      (enters : (w.server.answer r).entering = some (user, room)) :
      Reaches w (.step (.request id r)) room
  | resolve (room : RoomId) : Reaches w (.resolve room) room

/-- The room that a happening concerns. -/
def Happening.room? : Happening → Option RoomId
  | .step x => x.room?
  | .ask r => r.room?
  | .resolve room | .announce _ room | .enroll _ _ room => some room

/-- All that a happening can do to rooms. -/
inductive Happening.Causes (w : World) (time : Nat) : Happening → RoomId → Change → Prop
  | founded {x : Happening} {room : RoomId} (reaches : x.Reaches w room)
      (fits : canHold w.server.settings.intakeCapacity = true) : Causes w time x room .founded
  /-- The reader of a connection hands a message on. -/
  | saved {c : Connection} {m : Message}
      (connected : w.connectionIn? c.participant.room c.participant.id = some c) :
      Causes w time (.step (.move c.participant.room c.participant.id .read)) c.participant.room
        (.saved m)
  /-- A connection makes a message of the next frame in its inbox. -/
  | client {c : Connection} {arrives : Nat} {f : Frame} {rest : List (Nat × Arrival)}
      {inbound : Wire.Inbound} {shown : Calendar.Instant}
      (connected : w.connectionIn? c.participant.room c.participant.id = some c)
      (next : c.inbox = (arrives, .frame f) :: rest) (data : Transport.isControl f = false)
      (decoded : Wire.Inbound.decode f.payload = .ok inbound) (free : inbound.kind ≠ .roomClosed)
      (clock : w.server.clock = some shown) :
      Causes w time (.step (.move c.participant.room c.participant.id .read)) c.participant.room
        (.handled (.broadcast
          (.ofClient inbound.kind inbound.content c.participant.identity c.participant.room shown)))
  | joining {p : Participant} {r : Request} {shown : Calendar.Instant} (admits : w.Admits time r p)
      (clock : w.server.clock = some shown) :
      Causes w time (.step (.request p.id r)) p.room
        (.handled (.broadcast (.joined p.identity p.room shown)))
  | announced {user : Identity} {room : RoomId} {shown : Calendar.Instant}
      (clock : w.server.clock = some shown) :
      Causes w time (.announce user room) room (.handled (.broadcast (.joined user room shown)))
  | closing {x : Happening} {r : Request} {segment : List Char} {user : Identity} {room : RoomId}
      {shown : Calendar.Instant} (asked : x.request? = some r) (posted : r.method = "POST")
      (route : r.route? = some (.close segment)) (named : roomOf? segment = some room)
      (verified : w.server.Verifies r user) (admin : user.role = .admin)
      (clock : w.server.clock = some shown) :
      Causes w time x room (.handled (.broadcast (.roomClosed user.userId room shown)))
  /-- Whoever enters gets an outbox of the capacity that is set. -/
  | entering {x : Happening} {id : ConnectionId} {user : Identity} {room : RoomId}
      (concerned : x.room? = some room)
      (fits : canHold w.server.settings.config.queueCapacity = true) :
      Causes w time x room
        (.handled (.register id user w.server.settings.config.queueCapacity))
  | other {x : Happening} {room : RoomId} {e : Hub.Event} (concerned : x.room? = some room)
      (quiet : e.message? = none) (nobody : e.entrant? = none) : Causes w time x room (.handled e)

variable {w : World} {time : Nat} {x : Happening} {room : RoomId}

/-- A request is answered in a step or by itself. -/
theorem Happening.cases_of_request? {r : Request} (asked : x.request? = some r) :
    (∃ id, x = .step (.request id r)) ∨ x = .ask r := by
  cases x with
  | step x =>
    cases x with
    | request id q =>
      cases asked
      exact .inl ⟨id, rfl⟩
    | _ => cases asked
  | ask q =>
    cases asked
    exact .inr rfl
  | _ => cases asked

theorem Happening.room?_of_request? {r : Request} (asked : x.request? = some r) :
    x.room? = r.room? := by
  obtain ⟨id, rfl⟩ | rfl := cases_of_request? asked <;> rfl

/-- A happening changes at most the room that it concerns. -/
theorem Happening.Causes.room?_eq {change : Change} (h : x.Causes w time room change) :
    x.room? = some room := by
  cases h with
  | founded reaches =>
    cases reaches with
    | request enters => exact room?_of_entering enters
    | resolve => rfl
  | saved | client | announced => rfl
  | joining admits => exact admits.room?_eq
  | closing asked posted route named =>
    exact (room?_of_request? asked).trans ((room?_of_route route).trans named)
  | entering concerned | other concerned => exact concerned

/-- Whom a happening registers it gives an outbox of the capacity that is set. -/
theorem Happening.Causes.fits {change : Change} (h : x.Causes w time room change) :
    change.Fits w.server.settings.config.queueCapacity := by
  cases h with
  | entering concerned fits => exact ⟨rfl, fits⟩
  | other concerned quiet nobody => exact Change.fits_of_entrant?_eq_none nobody _
  | _ => trivial

/-- The answer to a refused request executes no admission. -/
theorem not_reaches_of_refuses {r : Request} {response : Response} (asked : x.request? = some r)
    (given : (w.server.answer r).response = .ok response) (refuses : response.Refuses)
    (room : RoomId) : ¬ x.Reaches w room := by
  intro reaches
  obtain ⟨nobody, -⟩ := answer_spares w.server r response given refuses
  cases reaches with
  | request enters =>
    cases asked
    rw [nobody] at enters
    cases enters
  | resolve room => cases asked

theorem leads_enroll {P : RoomId → Change → Prop} (w : World) (id : ConnectionId) (user : Identity)
    (room : RoomId)
    (entering : canHold w.server.settings.config.queueCapacity = true →
      P room (.handled (.register id user w.server.settings.config.queueCapacity)))
    (events : ∀ e : Hub.Event, e.message? = none → e.entrant? = none → P room (.handled e)) :
    Leads P w.server (w.enroll id user room).server := by
  have entered := leads_register w.server room id user w.server.settings.config.queueCapacity
    entering
  obtain ⟨queue, s, heq, same⟩ | ⟨why, s, notices, heq, same⟩ := w.enroll_cases id user room
  · rw [heq] at entered
    rw [same]
    have told := entered.trans (leads_report _ [.admitted user.userId room id])
    exact told.trans (Connection.leads_release _ _ events)
  · rw [heq] at entered
    rw [same]
    exact entered.trans (leads_report _ _)

/-- Between the setting of the clocks and its end a happening does only what it can do. -/
theorem leads_happen (w : World) (time : Nat) (x : Happening) :
    Leads (x.Causes w time) (x.dated w.server) (w.happen time x).server := by
  cases x with
  | step x =>
    cases x with
    | request id r =>
      refine w.leads_request time id r ?_ ?_ ?_ ?_ ?_
      · intro segment room user shown posted route named verified admin clock
        exact .closing rfl posted route named verified admin clock
      · rintro p shown rfl admits clock
        exact .joining admits clock
      · intro user room enters fits
        exact .founded (.request enters) fits
      · intro user room enters fits
        exact .entering (room?_of_entering enters) fits
      · intro user room enters e quiet nobody
        exact .other (room?_of_entering enters) quiet nobody
    | move room id m =>
      cases found : w.connectionIn? room id with
      | none =>
        simp only [happen, step_move_of_none found]
        exact .quiet rfl
      | some c =>
        simp only [happen, step_move_of_some found]
        obtain ⟨rfl, rfl⟩ := participant_of_connectionIn? found
        refine Connection.leads_perform m c time _ (fun e => .other rfl) ?_ ?_
        · rintro message rfl
          exact .saved found
        · rintro arrives f rest inbound shown rfl next data decoded clock free
          exact .client found next data decoded free clock
    | setClocks clock now => exact .quiet rfl
  | ask r =>
    refine (effect_answer w.server r).leads ?_
    intro segment room user shown posted route named verified admin clock
    exact .closing rfl posted route named verified admin clock
  | resolve room =>
    simp only [happen, resolved]
    split
    next heq => exact leads_resolve heq fun fits => .founded (.resolve room) fits
    · exact .quiet rfl
  | announce user room =>
    simp only [happen, Server.announce]
    split
    next clock _ => exact leads_send _ _ _ (.announced clock)
    · exact .quiet rfl
  | enroll id user room =>
    exact leads_enroll { w with now := time } id user room (fun fits => .entering rfl fits)
      fun e => .other rfl

theorem Happening.hubs_dated (x : Happening) (s : Server) : (x.dated s).hubs = s.hubs := by
  cases x with
  | step x => exact World.hubs_dated x s
  | _ => rfl

theorem Happening.sound_dated (x : Happening) {s : Server} (sound : s.Sound) :
    (x.dated s).Sound := by
  rw [Server.Sound, x.hubs_dated]
  exact sound

theorem sound_happen (sound : w.server.Sound) (time : Nat) (x : Happening) :
    (w.happen time x).server.Sound :=
  (leads_happen w time x).sound (x.sound_dated sound)

/-- An outbox grows only by messages that a happening can broadcast. -/
theorem accepted_happen (sound : w.server.Sound) (time : Nat) (x : Happening) (room : RoomId)
    (queue : QueueId) :
    ∃ placed : List Message, (w.happen time x).server.accepted room queue =
        w.server.accepted room queue ++ placed ∧
      ∀ m ∈ placed, x.Causes w time room (.handled (.broadcast m)) := by
  have same : (x.dated w.server).accepted room queue = w.server.accepted room queue := by
    simp only [Server.accepted, Server.hub?, x.hubs_dated]
  exact same ▸ (leads_happen w time x).accepted (x.sound_dated sound) room queue

/-- Rooms are only added, and only those for which a hub is founded. -/
theorem rooms_happen (w : World) (time : Nat) (x : Happening) :
    ∃ new : List RoomId, (w.happen time x).server.rooms = w.server.rooms ++ new ∧
      ∀ room ∈ new, x.Causes w time room .founded := by
  have grown := (leads_happen w time x).rooms
  rwa [Server.rooms.eq_1 (x.dated w.server), x.hubs_dated] at grown

theorem mem_rooms_release (c : Connection) {s : Server} (there : room ∈ s.rooms) :
    room ∈ (c.release s).rooms :=
  (Connection.leads_release (P := fun _ _ => True) c s fun _ _ _ => trivial).mem_rooms there

theorem mem_rooms_happen (time : Nat) (x : Happening) (there : room ∈ w.server.rooms) :
    room ∈ (w.happen time x).server.rooms := by
  obtain ⟨new, grown, -⟩ := rooms_happen w time x
  exact grown ▸ List.mem_append_left new there

/-- Whoever is let into a room gets the hub of it, whether or not he is admitted in the end. -/
theorem mem_rooms_request {r : Request} {user : Identity} {t : Server}
    (enters : (w.server.answer r).entering = some (user, room))
    (found : (w.server.answer r).server.resolve room = .ok t) (time : Nat) (id : ConnectionId) :
    room ∈ (w.step time (.request id r)).server.rooms := by
  have entered := mem_rooms_admitUser found id user
  rcases admitting : (w.server.answer r).server.admitUser id user room with ⟨result, s⟩
  rw [admitting] at entered
  cases result with
  | ok p =>
    rw [step_request_of_ok enters admitting]
    exact mem_rooms_release _ entered
  | error why =>
    obtain ⟨notices, step⟩ := step_request_of_error enters admitting time
    rw [step]
    exact entered

/-- A room gets a hub exactly when an admission to it is executed, if queues of events can be made
at all. -/
theorem mem_rooms_happen_iff :
    room ∈ (w.happen time x).server.rooms ↔ room ∈ w.server.rooms ∨
      canHold w.server.settings.intakeCapacity = true ∧ x.Reaches w room := by
  constructor
  · intro there
    obtain ⟨new, grown, founded⟩ := rooms_happen w time x
    rw [grown, List.mem_append] at there
    refine there.imp id fun later => ?_
    cases founded room later with
    | founded reaches fits => exact ⟨fits, reaches⟩
  · rintro (there | ⟨fits, reaches⟩)
    · exact mem_rooms_happen time x there
    · cases reaches with
      | @request id r user room enters =>
        have answered := (effect_answer w.server r).leads (P := fun _ _ => True)
          fun _ _ _ _ _ _ _ _ _ _ => trivial
        have fits : canHold (w.server.answer r).server.settings.intakeCapacity = true := by
          rw [answered.fixed.1]
          exact fits
        obtain ⟨t, found⟩ := resolve_of_canHold fits room
        exact mem_rooms_request enters found time id
      | resolve room => exact mem_rooms_resolved fits room

/-- All that a happening can make of the connections of a world. -/
inductive Happening.Connects (w : World) (time : Nat) : Happening → List Connection → Prop
  | nobody (x : Happening) : Connects w time x w.connections
  | moves {c : Connection} {m : Connection.Move}
      (connected : w.connectionIn? c.participant.room c.participant.id = some c) :
      Connects w time (.step (.move c.participant.room c.participant.id m))
        (w.connections.set (w.place c.participant.room c.participant.id)
          (m.perform c time w.server).1)
  | admits {p : Participant} {r : Request} {s : Server} (admits : w.Admits time r p)
      (entered : p.room ∈ (w.happen time (.step (.request p.id r))).server.rooms) :
      Connects w time (.step (.request p.id r)) (w.connections ++ [opened p s time])
  | enrolls {p : Participant} {s : Server}
      (entered : p.room ∈ (w.happen time (.enroll p.id p.identity p.room)).server.rooms) :
      Connects w time (.enroll p.id p.identity p.room) (w.connections ++ [opened p s time])

/-- A request opens a connection for who is admitted, if anybody is. -/
theorem connects_request (w : World) (time : Nat) (id : ConnectionId) (r : Request) :
    Happening.Connects w time (.step (.request id r))
      (w.step time (.request id r)).connections := by
  obtain ⟨-, step⟩ | ⟨user, room, enters, ⟨p, s, admitted, step⟩ | ⟨why, s, _, _, step⟩⟩ :=
    w.step_request_cases time id r
  · rw [step]
    exact .nobody _
  · have fst := congrArg Prod.fst admitted
    obtain ⟨rfl, rfl, rfl⟩ := participant_of_admitUser fst
    obtain ⟨t, found⟩ := resolve_of_admitUser fst
    have entered := mem_rooms_request enters found time p.id
    rw [step]
    exact .admits (admits_of_admitUser enters fst time) entered
  · rw [step]
    exact .nobody _

/-- Enrolling opens a connection of the user, or it fails to. -/
theorem connects_enroll (w : World) (time : Nat) (id : ConnectionId) (user : Identity)
    (room : RoomId) :
    Happening.Connects w time (.enroll id user room)
      (w.happen time (.enroll id user room)).connections := by
  obtain ⟨queue, s, registered, same⟩ | ⟨why, s, notices, -, same⟩ :=
    { w with now := time }.enroll_cases id user room
  · have known : room ∈ s.rooms := mem_rooms_of_register registered
    have entered : room ∈ (w.happen time (.enroll id user room)).server.rooms := by
      rw [happen, same]
      exact mem_rooms_release _ known
    have connects := Happening.Connects.enrolls (p := ⟨id, user, room, queue⟩) (s := s) entered
    rw [happen, same]
    exact connects
  · rw [happen, same]
    exact .nobody _

/-- Nothing else becomes of the connections. -/
theorem connects_happen (w : World) (time : Nat) (x : Happening) :
    x.Connects w time (w.happen time x).connections := by
  cases x with
  | step x =>
    cases x with
    | request id r => exact w.connects_request time id r
    | move room id m =>
      cases found : w.connectionIn? room id with
      | none =>
        rw [happen, step_move_of_none found]
        exact .nobody _
      | some c =>
        rw [happen, step_move_of_some found]
        obtain ⟨rfl, rfl⟩ := participant_of_connectionIn? found
        exact .moves found
    | setClocks clock now => exact .nobody _
  | enroll id user room => exact w.connects_enroll time id user room
  | ask r => exact .nobody _
  | resolve room => exact .nobody _
  | announce user room => exact .nobody _

/-! ### Lasting worlds -/

/-- All hubs run, and every connection can reach the hub of its room. -/
structure Lasting (w : World) : Prop where
  server : w.server.Lasting
  linked : ∀ c ∈ w.connections, c.linked = true ∧ c.participant.room ∈ w.server.rooms

theorem lasting_ofServer {s : Server} (lasting : s.Lasting) : (ofServer s).Lasting :=
  ⟨lasting, fun _ there => absurd there List.not_mem_nil⟩

/-- The connections after a happening: those before, and one that is opened in a room with a hub. -/
theorem linked_happen (lasting : w.Lasting) {c : Connection}
    (there : c ∈ (w.happen time x).connections) :
    c.linked = true ∧ c.participant.room ∈ (w.happen time x).server.rooms := by
  have kept : ∀ d ∈ w.connections,
      d.linked = true ∧ d.participant.room ∈ (w.happen time x).server.rooms := fun d before =>
    ⟨(lasting.linked d before).1, mem_rooms_happen time x (lasting.linked d before).2⟩
  have connects := connects_happen w time x
  generalize (w.happen time x).connections = connections at there connects
  cases connects with
  | nobody => exact kept c there
  | @moves d m connected =>
    rcases List.mem_or_eq_of_mem_set there with before | rfl
    · exact kept c before
    · rw [Connection.linked_perform, Connection.participant_perform]
      exact kept d (List.mem_of_getElem? connected)
  | admits _ entered | enrolls entered =>
    rcases List.mem_append.1 there with before | new
    · exact kept c before
    · cases List.mem_singleton.1 new
      exact ⟨rfl, entered⟩

theorem Lasting.happen (lasting : w.Lasting) (time : Nat) (x : Happening) :
    (w.happen time x).Lasting where
  server := by
    refine (leads_happen w time x).lasting ⟨?_, ?_⟩
    · rw [Server.rooms, x.hubs_dated]
      exact lasting.server.once
    · rw [x.hubs_dated]
      exact lasting.server.running
  linked _ there := linked_happen lasting there

theorem Lasting.through (lasting : w.Lasting) (history : List (Nat × Happening)) :
    (w.through history).Lasting :=
  through_of_happen (fun _ time x before => before.happen time x) lasting history

end World
end RoomHub
