import RoomHub.Launch
import RoomHub.Proofs.CommandLine
import RoomHub.Proofs.Http.Origins
import RoomHub.Proofs.Server.Capacity
import RoomHub.Proofs.World.Refusals
import RoomHub.Proofs.World.Registry

/-!
# What origins and capacities do to a server

The arguments of the program that nobody looks at before the server starts are the origins and the
capacity of outboxes.  Origins that no header can hold are ignored with a warning, and the others
are allowed whatever happens later; but the wildcard keeps the server from starting.  A capacity of
zero is taken for one; but one that no queue can have is kept, and then nobody is ever admitted.
`Withstands` says so of one state of a server, and `configuration_law` of every state in every
history.
-/

namespace RoomHub.Launch

open CommandLine Http
open Server (canHold_iff)

variable {a : Arguments} {s : Server}

/-- The queue is that of an empty outbox with the capacity in the arguments, at least one. -/
def Opens (a : Arguments) (s : Server) (room : RoomId) (queue : QueueId) : Prop :=
  ∃ hub, s.hub? room = some hub ∧ hub.outbox? queue = some (.empty a.capacity)

/-- What a server makes of the arguments that it was started with, in one of its states. -/
structure Withstands (a : Arguments) (s : Server) : Prop where
  /-- A request is answered as long as the clock shows a time. -/
  answers : s.clock ≠ none → ∀ r, ∃ response, (s.answer r).response = .ok response
  /-- The answer allows the origin of the request if that is an argument that a header can hold, and
  no other. -/
  allows : ∀ r response, (s.answer r).response = .ok response → ∀ origin,
    (allowOrigin, origin) ∈ response.headers ↔
      r.header? "origin" = some origin ∧ origin ∈ a.origins ∧ isValue origin = true
  /-- Whoever asks for the hub of a room gets it. -/
  resolves : ∀ room, ∃ t, s.resolve room = .ok t
  /-- As long as the clock shows a time, everybody is admitted; but if a queue cannot have the
  capacity in the arguments, an admission gets the hub of its room and crashes. -/
  admits : s.clock ≠ none → ∀ id user room,
    if a.capacity ≤ ConnectionConfig.maxCapacity then
      ∃ queue t, s.admitUser id user room = (.ok ⟨id, user, room, queue⟩, t) ∧
        Opens a t room queue
    else s.admitUser id user room = (.error (.crashed {}), s.resolved room)
  /-- The same is true of the last part of an admission in parts. -/
  enrolls : ∀ id user, ∀ room ∈ s.rooms,
    if a.capacity ≤ ConnectionConfig.maxCapacity then
      ∃ queue t, s.register room id user s.settings.config.queueCapacity = (.ok queue, t) ∧
        Opens a t room queue
    else
      s.register room id user s.settings.config.queueCapacity = (.error (.crashed {}), s)
  /-- All outboxes have a capacity that a queue can have. -/
  holds : ∀ hub ∈ s.hubs, ∀ x ∈ hub.outboxes,
    x.2.capacity = max a.capacity 1 ∧ x.2.capacity ≤ ConnectionConfig.maxCapacity

/-! ### The settings of a server -/

/-- The settings of a server that was started with some arguments. -/
def started (a : Arguments) : Settings :=
  { settings a with origins := a.origins.filter isValue }

@[simp] theorem origins_started (a : Arguments) :
    (started a).origins = a.origins.filter isValue := rfl

@[simp] theorem queueCapacity_started (a : Arguments) :
    (started a).config.queueCapacity = max a.capacity 1 := rfl

theorem canHold_intake_started (a : Arguments) :
    Server.canHold (started a).intakeCapacity = true :=
  (by decide : Server.canHold ConnectionConfig.defaultIntakeCapacity = true)

/-- A capacity is brought up to one, but not down to what a queue can have. -/
theorem canHold_queue_started (a : Arguments) :
    Server.canHold (started a).config.queueCapacity =
      decide (a.capacity ≤ ConnectionConfig.maxCapacity) := by
  have one : 1 ≤ ConnectionConfig.maxCapacity := by decide
  rw [Bool.eq_iff_iff, canHold_iff, queueCapacity_started, decide_eq_true_eq]
  omega

/-- An outbox holds at least one message whatever is asked for. -/
theorem empty_max_one (capacity : Nat) : Outbox.empty (max capacity 1) = .empty capacity := by
  simp [Outbox.empty]

/-! ### One state -/

theorem admits_of_started (set : s.settings = started a) (lasting : s.Lasting)
    (shown : s.clock ≠ none) (id : ConnectionId) (user : Identity) (room : RoomId) :
    if a.capacity ≤ ConnectionConfig.maxCapacity then
      ∃ queue t, s.admitUser id user room = (.ok ⟨id, user, room, queue⟩, t) ∧
        Opens a t room queue
    else s.admitUser id user room = (.error (.crashed {}), s.resolved room) := by
  obtain ⟨time, shown⟩ := Option.ne_none_iff_exists'.1 shown
  have intake : Server.canHold s.settings.intakeCapacity = true :=
    set ▸ canHold_intake_started a
  have held := canHold_queue_started a
  rw [← set] at held
  split_ifs with fits
  · rw [decide_eq_true fits] at held
    obtain ⟨queue, t, admitted, -⟩ := Server.admitUser_of_running ⟨id, user, time⟩ shown
      (lasting.running_hubOf room) intake held
    obtain ⟨hub, own, known⟩ := Server.registered_of_admitUser admitted
    refine ⟨queue, t, admitted, _, known, ?_⟩
    rw [show queue = hub.nextQueue id from own, hub.outbox?_register, set, queueCapacity_started,
      empty_max_one]
  · -- the room has its hub by then, but nobody in it has been told
    obtain ⟨t, resolved⟩ := Server.resolve_of_canHold intake room
    obtain ⟨same, clock, -⟩ := (Server.Leads.of_resolve resolved).fixed
    rw [decide_eq_false fits, ← same] at held
    rw [← clock] at shown
    simp only [Server.admitUser, Server.resolved, resolved, shown, held]

theorem enrolls_of_started (set : s.settings = started a) (lasting : s.Lasting)
    (id : ConnectionId) (user : Identity) {room : RoomId} (there : room ∈ s.rooms) :
    if a.capacity ≤ ConnectionConfig.maxCapacity then
      ∃ queue t, s.register room id user s.settings.config.queueCapacity = (.ok queue, t) ∧
        Opens a t room queue
    else
      s.register room id user s.settings.config.queueCapacity = (.error (.crashed {}), s) := by
  have held := canHold_queue_started a
  rw [← set] at held
  split_ifs with fits
  · rw [decide_eq_true fits] at held
    obtain ⟨hub, known, running⟩ := lasting.exists_hub there
    obtain ⟨t, entered, known'⟩ := Server.register_of_running known running held id user
    refine ⟨_, t, entered, _, known', ?_⟩
    rw [hub.outbox?_register, set, queueCapacity_started, empty_max_one]
  · rw [decide_eq_false fits] at held
    simp [Server.register, held]

theorem withstands_of_started (set : s.settings = started a) (lasting : s.Lasting)
    (made : s.Made (started a).config.queueCapacity) : Withstands a s where
  answers := exists_response
  allows r response given origin := by
    rw [mem_allowed_iff given, set, origins_started, List.mem_filter]
  resolves := Server.resolve_of_canHold (set ▸ canHold_intake_started a)
  admits := admits_of_started set lasting
  enrolls id user room there := enrolls_of_started set lasting id user there
  holds hub known x there := by
    obtain ⟨same, fits⟩ := made hub known x there
    rw [queueCapacity_started] at same fits
    have fits := canHold_iff.1 fits
    omega

/-! ### Every state -/

/-- A happening makes outboxes only with the capacity that is set. -/
theorem made_happen {w : World} (made : w.server.Made w.server.settings.config.queueCapacity)
    (sound : w.server.Sound) (time : Nat) (x : World.Happening) :
    (w.happen time x).server.Made (w.happen time x).server.settings.config.queueCapacity := by
  have dated : (x.dated w.server).Made w.server.settings.config.queueCapacity := by
    rw [Server.Made, x.hubs_dated]
    exact made
  rw [World.settings_happen]
  exact (World.leads_happen w time x).made dated (x.sound_dated sound) fun _ _ caused => caused.fits

/-- All outboxes of a server are made with the capacity that it is set to, whatever happens. -/
theorem made_through {s : Server} (fresh : s.hubs = []) (history : List (Nat × World.Happening)) :
    ((World.ofServer s).through history).server.Made s.settings.config.queueCapacity := by
  have start : s.Sound ∧ s.Made s.settings.config.queueCapacity :=
    ⟨fun hub there => by simp [fresh] at there, fun hub there => by simp [fresh] at there⟩
  have made := (World.through_of_happen
    (P := fun w => w.server.Sound ∧ w.server.Made w.server.settings.config.queueCapacity)
    (fun _ time x before =>
      ⟨World.sound_happen before.1 time x, made_happen before.2 before.1 time x⟩)
    (w := World.ofServer s) start history).2
  rwa [World.settings_through] at made

/-- A server starts with these settings unless all origins are to be allowed. -/
theorem start_settings (a : Arguments) (store : ChatStore) (clock : Option Calendar.Instant)
    (now : Nat) :
    Server.start (settings a) store clock now =
      if Cors.wildcard ∈ a.origins then .error {}
      else .ok ⟨started a, clock, now, store, [],
        (a.origins.filter (!isValue ·)).map .originIgnored⟩ := by
  unfold Server.start
  simp only [List.contains_iff_mem]
  rfl

/-- The program's own warnings of origins that are ignored. -/
def warnings (a : Arguments) : List Log.Entry :=
  (a.origins.filter (!isValue ·)).map fun origin =>
    ⟨.warn, "kyodo_server::ui::server", s!"Ignoring invalid CORS origin '{origin}'"⟩

theorem entries_ignoredOrigins (a : Arguments) :
    (settings a).ignoredOrigins.map noticeEntry = warnings a := by
  rw [Settings.ignoredOrigins, List.map_map]
  rfl

example :
    warnings ⟨"127.0.0.1", 8080, "x", ["http://a", "http://b\n"], 0⟩ =
      [⟨.warn, "kyodo_server::ui::server", "Ignoring invalid CORS origin 'http://b\n'"⟩] := by
  decide +kernel

theorem warnings_prefix_serverLog (m : Machine) (signal : Signal)
    (journal : s.journal = (settings a).ignoredOrigins) :
    warnings a <+: serverLog m a s signal := by
  rw [serverLog, journal, entries_ignoredOrigins]
  exact List.prefix_append _ _

/-- A server that can listen warns of the origins that it ignores.  It crashes at its start if all
origins are to be allowed; else it ends in order. -/
theorem serve_cases (m : Machine) (a : Arguments) (clock : Calendar.Instant) (now : Nat)
    (signal : Signal) :
    match bindFault? m a with
    | some _ => (serve m a clock now signal).code = 1
    | none =>
      if Cors.wildcard ∈ a.origins then
        (serve m a clock now signal).code = crashCode ∧
          (serve m a clock now signal).log = warnings a
      else
        (serve m a clock now signal).code = 0 ∧
          warnings a <+: (serve m a clock now signal).log := by
  unfold serve
  rw [start_settings]
  cases bindFault? m a with
  | some why => rfl
  | none =>
    dsimp only
    split_ifs with all
    · exact ⟨rfl, entries_ignoredOrigins a⟩
    · exact ⟨rfl, warnings_prefix_serverLog m signal rfl⟩

/-- The program can be asked for any origins and any capacity of 64 bits, and this is what it makes
of them. -/
theorem configuration_law (a : Arguments) :
    (a.origins ≠ [] → a.capacity < Decimal.twoTo 64 → ∀ environmentSecret, ∃ arguments,
      read environmentSecret arguments =
        .ok ⟨"127.0.0.1", 8080, a.secret, a.origins, a.capacity⟩) ∧
    (∀ m clock now signal,
      match bindFault? m a with
      | some _ => (serve m a clock now signal).code = 1
      | none =>
        if Cors.wildcard ∈ a.origins then
          (serve m a clock now signal).code = crashCode ∧
            (serve m a clock now signal).log = warnings a
        else
          (serve m a clock now signal).code = 0 ∧
            warnings a <+: (serve m a clock now signal).log) ∧
    ∀ store clock now,
      match Server.start (settings a) store clock now with
      | .error _ => Cors.wildcard ∈ a.origins
      | .ok s =>
        Cors.wildcard ∉ a.origins ∧
          s.journal = (a.origins.filter (!isValue ·)).map .originIgnored ∧
          ∀ history, Withstands a ((World.ofServer s).through history).server := by
  refine ⟨fun given small environmentSecret => ?_,
    fun m clock now signal => serve_cases m a clock now signal, fun store clock now => ?_⟩
  · have accepted := read_asking environmentSecret a.secret small a.origins
    rw [if_neg (by simpa using given)] at accepted
    exact ⟨_, accepted⟩
  · have begun := start_settings a store clock now
    split_ifs at begun with all
    · rw [begun]
      exact all
    · rw [begun]
      refine ⟨all, rfl, fun history => ?_⟩
      exact withstands_of_started (World.settings_through _ history)
        ((World.lasting_start begun).through history).server (made_through rfl history)

/-- A machine on which the program may listen on any port of any host. -/
def openMachine : Machine := ⟨id, fun _ => true, fun _ => true, toString⟩

/-- The wildcard is not ignored, and a capacity that is too great for a queue is not brought down:
the one ends the program at its start, the other loses the first admission. -/
theorem configuration_crashes :
    (run openMachine none none .epoch 0 .interrupt
        ["--jwt-secret", "x", "--allowed-origin", "*"]).code = crashCode ∧
      ∃ a s, read none ["--jwt-secret", "x", "--queue-capacity", "2305843009213693952"] = .ok a ∧
        Server.start (settings a) (.log (.withCapacity ChatLog.defaultCapacity)) (some .epoch) 0 =
          .ok s ∧
        (s.admitUser Sample.annId Sample.ann Sample.studio).1 = .error (.crashed {}) := by
  have begun := start_settings
    ⟨"127.0.0.1", 8080, "x", ["http://localhost:3000"], 2305843009213693952⟩
    (.log (.withCapacity ChatLog.defaultCapacity)) (some .epoch) 0
  rw [if_neg (by decide)] at begun
  exact ⟨by decide +kernel, _, _, by decide +kernel, begun, rfl⟩

end RoomHub.Launch
