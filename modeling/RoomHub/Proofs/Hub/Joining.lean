import RoomHub.Proofs.Hub.Membership

/-!
# Joining a room

An admission announces a user to a room and then registers the user's connection
(`Admission.events`); that is what `Server.admitUser` sends to the hub, both or neither
(`admitUser_of_running`, `hubOf_admitUser_of_error`).  Other events may come between the two, those
of other admissions included (`Admits`).  `accepted_run` follows an outbox through any such history:
it accepts the broadcasts of a first part of it and nothing else.  So a newcomer hears nothing of
what came before its registration, its own notice included, and a member hears every notice once, or
is removed by it (`join_protocol`).
-/

namespace RoomHub

open Calendar

/-- An admission of a user to a room, as the connection `id`. -/
structure Admission where
  id : ConnectionId
  user : Identity
  time : Instant
  deriving DecidableEq

namespace Admission

/-- The notice of an admission. -/
def notice (a : Admission) (room : RoomId) : Message := .joined a.user room a.time

/-- What an admission sends to the hub of the room: its notice, then its registration. -/
def events (a : Admission) (room : RoomId) (capacity : Nat) : List Hub.Event :=
  [.broadcast (a.notice room), .register a.id a.user capacity]

end Admission

namespace Server

variable {s : Server} {room : RoomId} {hub : Hub}

/-- A running hub handles what is sent to it. -/
theorem send_of_running (known : s.hub? room = some hub) (running : hub.running = true)
    (e : Hub.Event) :
    ∃ t, s.send room e = (.ok (), t) ∧ t.settings = s.settings ∧
      t.hub? room = some (hub.handle .inOrder e).1 := by
  have own : (hub.handle .inOrder e).1.room = room :=
    (Hub.room_handle hub .inOrder e).1.trans (room_of_hub? known)
  have look := hub?_putHub s (hub.handle .inOrder e).1 room
  rw [if_pos own, known] at look
  simp only [send, known, running, if_true]
  exact ⟨_, rfl, rfl, look⟩

/-- A running hub registers whom it is asked to, for an outbox that is new. -/
theorem register_of_running (known : s.hub? room = some hub) (running : hub.running = true)
    {capacity : Nat} (fits : canHold capacity = true) (id : ConnectionId) (user : Identity) :
    ∃ t, s.register room id user capacity = (.ok (hub.nextQueue id), t) ∧
      t.hub? room = some (hub.handle .inOrder (.register id user capacity)).1 := by
  obtain ⟨t, sent, -, known'⟩ := send_of_running known running (.register id user capacity)
  simp only [register, fits, known, sent, if_true]
  exact ⟨t, rfl, known'⟩

/-- The hub of a room, or the one that it would get. -/
def hubOf (s : Server) (room : RoomId) : Hub := (s.hub? room).getD (Hub.start room)

theorem hub?_resolve {t : Server} (resolved : s.resolve room = .ok t) :
    t.hub? room = some (s.hubOf room) := by
  unfold resolve at resolved
  split at resolved
  next known =>
    cases resolved
    simp [hubOf, known]
  next new =>
    split_ifs at resolved
    cases resolved
    have look := hub?_append s (Hub.start room) room
    rw [new, if_pos (show (Hub.start room).room = room from rfl)] at look
    rw [hubOf, new]
    exact look

theorem resolve_of_canHold (fits : canHold s.settings.intakeCapacity = true) (room : RoomId) :
    ∃ t, s.resolve room = .ok t := by
  unfold resolve
  split
  · exact ⟨_, rfl⟩
  · exact ⟨_, if_pos fits⟩

theorem Leads.of_resolve {t : Server} (resolved : s.resolve room = .ok t) :
    Leads (fun _ _ => True) s t :=
  leads_resolve resolved fun _ => trivial

/-- An admission to a room whose hub runs succeeds: its two events are sent to the hub. -/
theorem admitUser_of_running (a : Admission) (clock : s.clock = some a.time)
    (running : (s.hubOf room).running = true) (intake : canHold s.settings.intakeCapacity = true)
    (fits : canHold s.settings.config.queueCapacity = true) :
    ∃ queue t, s.admitUser a.id a.user room = (.ok ⟨a.id, a.user, room, queue⟩, t) ∧
      t.hub? room = some ((s.hubOf room).runInOrder
        (a.events room s.settings.config.queueCapacity)) := by
  obtain ⟨t, resolved⟩ := resolve_of_canHold intake room
  have fixed := (Leads.of_resolve resolved).fixed
  have known := hub?_resolve resolved
  set hub := s.hubOf room
  rw [← fixed.2.1] at clock
  rw [← fixed.1] at fits ⊢
  obtain ⟨u, told, same, known'⟩ :=
    send_of_running known running (.broadcast (.joined a.user room a.time))
  have running' := (Hub.room_handle hub .inOrder (.broadcast (.joined a.user room a.time))).2.trans
    running
  obtain ⟨v, entered, known''⟩ := register_of_running known' running' fits a.id a.user
  simp only [admitUser, resolved, clock, fits, told, same, entered]
  exact ⟨_, _, rfl, known''⟩

/-- Who is admitted has just been registered, for an outbox of the capacity that is set. -/
theorem registered_of_admitUser {t : Server} {id : ConnectionId} {user : Identity} {p : Participant}
    (admitted : s.admitUser id user room = (.ok p, t)) :
    ∃ hub : Hub, p.queue = hub.nextQueue id ∧
      t.hub? room =
        some (hub.handle .inOrder (.register id user s.settings.config.queueCapacity)).1 := by
  unfold admitUser at admitted
  split at admitted
  · cases admitted
  next u resolved =>
    rw [← (Leads.of_resolve resolved).fixed.1]
    split at admitted
    next time shown fits =>
      obtain refused | ⟨hub, -, known, running, -⟩ :=
        send_cases u room (.broadcast (.joined user room time))
      · rw [refused] at admitted
        cases admitted
      · obtain ⟨v, told, same, known'⟩ :=
          send_of_running known running (.broadcast (.joined user room time))
        have running' :=
          (Hub.room_handle hub .inOrder (.broadcast (.joined user room time))).2.trans running
        obtain ⟨w, entered, known''⟩ := register_of_running known' running' fits id user
        simp only [told, same, entered] at admitted
        cases admitted
        exact ⟨_, rfl, known''⟩
    · cases admitted

/-- An admission that fails has sent nothing. -/
theorem hubOf_admitUser_of_error {id : ConnectionId} {user : Identity}
    {why : Failure AdmissionError} {t : Server}
    (failed : s.admitUser id user room = (.error why, t)) :
    t.hubOf room = s.hubOf room := by
  unfold admitUser at failed
  split at failed
  · cases failed
    rfl
  next u resolved =>
    have same : u.hubOf room = s.hubOf room := by
      rw [hubOf, hub?_resolve resolved]
      rfl
    split at failed
    next time shown fits =>
      obtain refused | ⟨hub, notices, known, running, done⟩ :=
        send_cases u room (.broadcast (.joined user room time))
      · rw [refused] at failed
        cases failed
        exact same
      · -- the hub has told its members, so it takes the registration as well
        obtain ⟨queue, v, registered⟩ := register_after_send done fits id user
        rw [done] at failed
        simp only [settings_report, settings_putHub, registered] at failed
        cases failed
    · cases failed
      exact same

end Server

namespace Hub

variable {hub : Hub} {queue : QueueId} {b : Outbox}

/-! ### One outbox through any history -/

/-- What the hub has put into an outbox is what the receiver has taken and what is pending. -/
theorem accepted_eq (hub : Hub) (queue : QueueId) :
    hub.accepted queue = hub.taken queue ++ hub.pending queue := by
  cases hb : hub.outbox? queue with
  | none => simp [accepted, taken, pending, hb]
  | some b => simp [accepted, taken, pending, hb, b.taken_append_pending]

theorem accepted_of_outbox? (hb : hub.outbox? queue = some b) :
    hub.accepted queue = b.accepted := by
  simp [accepted, hb]

/-- Nothing is put into an outbox any more that the hub has given up. -/
theorem accepted_run_of_not_attached (h : hub.Sound) (hb : hub.outbox? queue = some b)
    (ha : hub.isAttached queue = false) (events : List (Event × Visit)) :
    (hub.run events).accepted queue = hub.accepted queue := by
  obtain ⟨b', hb', same, -⟩ := run_of_not_attached h hb ha events
  rw [accepted_of_outbox? hb', accepted_of_outbox? hb, same]

/-- An outbox accepts what is broadcast in a first part of a history, and nothing else. -/
theorem accepted_run (h : hub.Sound) (hb : hub.outbox? queue = some b)
    (events : List (Event × Visit)) :
    ∃ part, part <+: events ∧
      (hub.run events).accepted queue = hub.accepted queue ++ broadcasts part := by
  induction events generalizing hub b with
  | nil => exact ⟨[], List.prefix_refl _, by simp [run, broadcasts]⟩
  | cons e events ih =>
    cases ha : hub.isAttached queue with
    | false =>
      exact ⟨[], List.nil_prefix, by simp [accepted_run_of_not_attached h hb ha, broadcasts]⟩
    | true =>
      have sound := h.handle e.2 e.1
      have hb' := outbox?_handle h hb e.2 e.1
      have ha' := isAttached_handle h hb e.2 e.1
      rw [ha] at hb' ha'
      cases hk : e.1.keeps queue b with
      | false =>
        -- the outbox is given up with this event, so the part ends before it
        refine ⟨[], List.nil_prefix, ?_⟩
        have given_up := accepted_run_of_not_attached sound hb' (ha'.trans hk) events
        rw [accepted_of_outbox? hb', accepted_apply_of_not_keeps hk,
          ← accepted_of_outbox? hb] at given_up
        exact given_up.trans (List.append_nil _).symm
      | true =>
        obtain ⟨part, first, same⟩ := ih sound hb'
        rw [accepted_of_outbox? hb', accepted_apply_of_keeps hk, ← accepted_of_outbox? hb] at same
        refine ⟨e :: part, List.cons_prefix_cons.2 ⟨rfl, first⟩, same.trans ?_⟩
        rw [broadcasts_cons, List.append_assoc]

theorem outbox?_of_hasRoom (roomy : hub.hasRoom queue = true) :
    ∃ b, hub.outbox? queue = some b := by
  cases hb : hub.outbox? queue with
  | none => simp [hasRoom, hb] at roomy
  | some b => exact ⟨b, rfl⟩

/-- A member who has room for a message gets it, and then what is broadcast in a first part of what
follows. -/
theorem accepted_of_hasRoom (h : hub.Sound) (roomy : hub.hasRoom queue = true)
    (fed : hub.isAttached queue = true) (visit : Visit) (m : Message)
    (after : List (Event × Visit)) :
    ∃ part, part <+: after ∧ (hub.run ((.broadcast m, visit) :: after)).accepted queue =
      hub.accepted queue ++ m :: broadcasts part := by
  obtain ⟨b, hb⟩ := outbox?_of_hasRoom roomy
  have keeps : (Event.broadcast m).keeps queue b = true := by
    rw [keeps_iff_retains hb]
    exact ⟨nofun, fun _ => roomy⟩
  have hb' := outbox?_handle h hb visit (.broadcast m)
  rw [fed] at hb'
  obtain ⟨part, first, same⟩ := accepted_run (h.handle visit (.broadcast m)) hb' after
  rw [accepted_of_outbox? hb', accepted_apply_of_keeps keeps, ← accepted_of_outbox? hb,
    List.append_assoc] at same
  exact ⟨part, first, same⟩

/-- Who has no room for a message is removed by it and gets nothing from then on. -/
theorem accepted_of_not_hasRoom (h : hub.Sound) (hb : hub.outbox? queue = some b)
    (full : hub.hasRoom queue = false) (visit : Visit) (m : Message)
    (after : List (Event × Visit)) :
    (hub.run ((.broadcast m, visit) :: after)).accepted queue = hub.accepted queue := by
  have drops : (Event.broadcast m).keeps queue b = false := by
    rw [Bool.eq_false_iff, Ne, keeps_iff_retains hb]
    exact fun retains => by simp [retains.2 rfl] at full
  have ha' := isAttached_handle h hb visit (.broadcast m)
  rw [drops, Bool.and_false] at ha'
  have hb' := outbox?_handle h hb visit (.broadcast m)
  refine (accepted_run_of_not_attached (h.handle visit _) hb' ha' after).trans ?_
  rw [accepted_of_outbox? hb', accepted_of_outbox? hb]
  cases fed : hub.isAttached queue with
  | false => exact accepted_apply_of_not_fed _ b
  | true => exact accepted_apply_of_not_keeps drops

/-- What becomes of a message at a member: it gets the message, and after it only what is broadcast
later, or it is removed and gets nothing any more. -/
theorem accepted_of_member (room : RoomId) (before after : List (Event × Visit)) (m : Message)
    (visit : Visit) {x : Member} (member : x ∈ ((start room).run before).members) :
    let hub := (start room).run before
    let told := (hub.handle visit (.broadcast m)).1
    let final := (start room).run (before ++ (.broadcast m, visit) :: after)
    (hub.hasRoom x.queue = true → x ∈ told.members ∧ ∃ part, part <+: after ∧
        final.accepted x.queue = hub.accepted x.queue ++ m :: broadcasts part) ∧
      (hub.hasRoom x.queue = false →
        x.id ∉ told.members.map (·.id) ∧ final.accepted x.queue = hub.accepted x.queue) := by
  intro hub told final
  have sound : hub.Sound := (sound_start room).run before
  have members : told.members = hub.members.filter fun x => hub.hasRoom x.queue :=
    members_broadcast sound visit m
  have later : final = hub.run ((.broadcast m, visit) :: after) := run_append _ _ _
  rw [members, later]
  refine ⟨fun roomy => ⟨List.mem_filter.2 ⟨member, roomy⟩, ?_⟩, fun full => ⟨fun kept => ?_, ?_⟩⟩
  · exact accepted_of_hasRoom sound roomy ((isAttached_iff hub _).2 ⟨x, member, rfl⟩) visit m after
  · obtain ⟨y, hy, same⟩ := List.mem_map.1 kept
    obtain ⟨hy, roomy⟩ := List.mem_filter.1 hy
    cases sound.eq_of_id hy member same
    simp [full] at roomy
  · obtain ⟨b, hb⟩ := ((current_start room).run (sound_start room) before).there x member
    exact accepted_of_not_hasRoom sound hb full visit m after

/-! ### Admissions side by side -/

/-- A history in which admissions run side by side with whatever else is sent to the hub.  Each of
them has sent its events up to some point, in their order; no two share a connection, and nobody
else registers one of theirs. -/
structure Admits {ι : Type} [DecidableEq ι] (room : RoomId) (capacity : Nat) (calls : ι → Admission)
    (history : List (Option ι × Event × Visit)) : Prop where
  distinct : ∀ i j, (calls i).id = (calls j).id → i = j
  ordered : ∀ i, sentBy (some i) history <+: (calls i).events room capacity
  others : ∀ x ∈ history, x.1 = none → ∀ i, x.2.1.entrant? ≠ some (calls i).id

section Admits

variable {ι : Type} [DecidableEq ι] {room : RoomId} {capacity : Nat} {calls : ι → Admission}
  {history before after : List (Option ι × Event × Visit)}

@[simp] theorem sentBy_append {σ : Type} [DecidableEq σ] (sender : σ)
    (history more : List (σ × Event × Visit)) :
    sentBy sender (history ++ more) = sentBy sender history ++ sentBy sender more := by
  simp [sentBy]

theorem sentBy_cons_self {σ : Type} [DecidableEq σ] (sender : σ) (e : Event × Visit)
    (history : List (σ × Event × Visit)) :
    sentBy sender ((sender, e) :: history) = e.1 :: sentBy sender history := by
  simp [sentBy]

/-- Only the call that announces a connection registers it. -/
theorem Admits.sender_of_entrant (admits : Admits room capacity calls history)
    {x : Option ι × Event × Visit} (hx : x ∈ history) {i : ι}
    (entering : x.2.1.entrant? = some (calls i).id) : x.1 = some i := by
  cases sender : x.1 with
  | none => exact absurd entering (admits.others x hx sender i)
  | some j =>
    have sent : x.2.1 ∈ sentBy (some j) history :=
      List.mem_map.2 ⟨x, List.mem_filter.2 ⟨hx, by simpa using sender⟩, rfl⟩
    have known := (admits.ordered j).subset sent
    simp only [Admission.events, List.mem_cons, List.not_mem_nil, or_false] at known
    rcases known with e | e <;> rw [e] at entering
    · cases entering
    · rw [admits.distinct j i (Option.some.inj entering)]

/-- How often a connection is registered in a part of a history is how often its call has done
so. -/
theorem Admits.countP_entrant (admits : Admits room capacity calls history)
    {part : List (Option ι × Event × Visit)} (of : part ⊆ history) (i : ι) :
    part.countP (fun x => x.2.1.entrant? = some (calls i).id) =
      (sentBy (some i) part).countP (fun e => e.entrant? = some (calls i).id) := by
  rw [sentBy, List.countP_map, List.countP_filter]
  apply List.countP_congr
  intro x hx
  simp only [Function.comp_apply, Bool.and_eq_true, decide_eq_true_eq]
  exact ⟨fun entering => ⟨entering, admits.sender_of_entrant (of hx) entering⟩, And.left⟩

/-- When a call registers its connection, it has announced it and sends nothing more. -/
theorem Admits.sentBy_of_registration (admits : Admits room capacity calls history) {i : ι}
    {visit : Visit}
    (split : history =
      before ++ (some i, .register (calls i).id (calls i).user capacity, visit) :: after) :
    sentBy (some i) before = [.broadcast ((calls i).notice room)] ∧ sentBy (some i) after = [] := by
  have ordered := admits.ordered i
  rw [split, sentBy_append, sentBy_cons_self, Admission.events] at ordered
  generalize sentBy (some i) before = sent at ordered ⊢
  rcases sent with _ | ⟨e, _ | ⟨e', more⟩⟩
  · simp [List.cons_prefix_cons] at ordered
  · simpa [List.cons_prefix_cons] using ordered
  · simp [List.cons_prefix_cons] at ordered

/-- When a call announces its connection, it has sent nothing before. -/
theorem Admits.sentBy_of_notice (admits : Admits room capacity calls history) {i : ι}
    {visit : Visit}
    (split : history = before ++ (some i, .broadcast ((calls i).notice room), visit) :: after) :
    sentBy (some i) before = [] := by
  have ordered := admits.ordered i
  rw [split, sentBy_append, sentBy_cons_self, Admission.events] at ordered
  generalize sentBy (some i) before = sent at ordered ⊢
  rcases sent with _ | ⟨e, _ | ⟨e', more⟩⟩
  · rfl
  · simp [List.cons_prefix_cons] at ordered
  · simp [List.cons_prefix_cons] at ordered

/-- A newcomer gets what is broadcast in a first part of what follows its registration. -/
theorem Admits.accepted_of_registration (admits : Admits room capacity calls history) {i : ι}
    {visit : Visit}
    (split : history =
      before ++ (some i, .register (calls i).id (calls i).user capacity, visit) :: after) :
    ∃ part, part <+: after.map (·.2) ∧
      ((start room).run (history.map (·.2))).accepted ⟨(calls i).id, 0⟩ = broadcasts part := by
  have sound : ((start room).run (before.map (·.2))).Sound := (sound_start room).run _
  have never : before.countP (fun x => x.2.1.entrant? = some (calls i).id) = 0 := by
    rw [admits.countP_entrant (split ▸ List.subset_append_left _ _),
      (admits.sentBy_of_registration split).1]
    rfl
  have first : ((start room).run (before.map (·.2))).registrations (calls i).id = 0 := by
    rw [registrations_start, List.countP_map]
    exact never
  have outbox : (((start room).run (before.map (·.2))).handle visit
      (.register (calls i).id (calls i).user capacity)).1.outbox? ⟨(calls i).id, 0⟩ =
        some (.empty capacity) := by
    rw [← first]
    exact outbox?_register ..
  obtain ⟨part, begins, same⟩ := accepted_run (sound.handle visit _) outbox (after.map (·.2))
  refine ⟨part, begins, ?_⟩
  rw [accepted_of_outbox? outbox] at same
  rw [split, List.map_append, run_append]
  exact same

/-- A notice whose call is complete has been followed by one registration of its connection, and
there was none before. -/
theorem Admits.countP_of_complete (admits : Admits room capacity calls history) {i : ι}
    {visit : Visit}
    (split : history = before ++ (some i, .broadcast ((calls i).notice room), visit) :: after)
    (complete : sentBy (some i) history = (calls i).events room capacity) :
    before.countP (fun x => x.2.1.entrant? = some (calls i).id) = 0 ∧
      after.countP (fun x => x.2.1.entrant? = some (calls i).id) = 1 := by
  have earlier := admits.sentBy_of_notice split
  have later : sentBy (some i) after = [.register (calls i).id (calls i).user capacity] := by
    rw [split, sentBy_append, sentBy_cons_self, earlier, Admission.events] at complete
    simpa using complete
  rw [admits.countP_entrant (split ▸ List.subset_append_left _ _),
    admits.countP_entrant (fun x hx => split ▸ List.mem_append_right _ (List.mem_cons_of_mem _ hx)),
    earlier, later]
  simp [Event.entrant?]

/-- Admissions that run side by side with anything else: what a newcomer gets is broadcast after its
registration, which its own notice precedes; whoever is a member when a notice is handled gets it
once, unless its outbox is full or closed and it is removed; and a complete call's notice has been
followed by one registration of its connection.  The events of a call are what an admission by the
server sends to the hub, both of them or none. -/
theorem join_protocol (room : RoomId) (capacity : Nat) (calls : ι → Admission)
    (history : List (Option ι × Event × Visit)) (admits : Admits room capacity calls history) :
    let final := (start room).run (history.map (·.2))
    let given (hub : Hub) (queue : QueueId) := hub.taken queue ++ hub.pending queue
    (∀ i before visit after,
      history = before ++ (some i, .register (calls i).id (calls i).user capacity, visit) :: after →
      (∃ v, (some i, .broadcast ((calls i).notice room), v) ∈ before) ∧
        ∃ part, part <+: after.map (·.2) ∧ given final ⟨(calls i).id, 0⟩ = broadcasts part) ∧
    (∀ i before visit after,
      history = before ++ (some i, .broadcast ((calls i).notice room), visit) :: after →
      let hub := (start room).run (before.map (·.2))
      let told := (hub.handle visit (.broadcast ((calls i).notice room))).1
      (∀ x ∈ hub.members,
        (hub.hasRoom x.queue = true → x ∈ told.members ∧ ∃ part, part <+: after.map (·.2) ∧
          given final x.queue = given hub x.queue ++ (calls i).notice room :: broadcasts part) ∧
        (hub.hasRoom x.queue = false →
          x.id ∉ told.members.map (·.id) ∧ given final x.queue = given hub x.queue)) ∧
      (sentBy (some i) history = (calls i).events room capacity →
        before.countP (fun x => x.2.1.entrant? = some (calls i).id) = 0 ∧
          after.countP (fun x => x.2.1.entrant? = some (calls i).id) = 1)) ∧
    ∀ (s : Server) (a : Admission), s.clock = some a.time →
      let outcome := s.admitUser a.id a.user room
      ((s.hubOf room).running = true → Server.canHold s.settings.intakeCapacity = true →
        Server.canHold s.settings.config.queueCapacity = true →
        ∃ queue, outcome.1 = .ok ⟨a.id, a.user, room, queue⟩ ∧
          outcome.2.hub? room = some ((s.hubOf room).runInOrder
            (a.events room s.settings.config.queueCapacity))) ∧
      ∀ why, outcome.1 = .error why → outcome.2.hubOf room = s.hubOf room := by
  intro final given
  have same (hub : Hub) (queue : QueueId) : given hub queue = hub.accepted queue :=
    (accepted_eq hub queue).symm
  refine ⟨fun i before visit after split => ⟨?_, ?_⟩, fun i before visit after split => ⟨?_, ?_⟩,
    fun s a clock => ⟨fun running intake fits => ?_, fun why failed => ?_⟩⟩
  · have announced := (admits.sentBy_of_registration split).1
    have sent : Event.broadcast ((calls i).notice room) ∈ sentBy (some i) before := by
      rw [announced]
      exact List.mem_singleton_self _
    obtain ⟨⟨sender, e, v⟩, hx, found⟩ := List.mem_map.1 sent
    obtain ⟨hx, own⟩ := List.mem_filter.1 hx
    cases found
    cases of_decide_eq_true own
    exact ⟨v, hx⟩
  · simp only [same]
    exact admits.accepted_of_registration split
  · intro x member
    simp only [same]
    have parts : history.map (·.2) = before.map (·.2) ++
        (.broadcast ((calls i).notice room), visit) :: after.map (·.2) := by
      rw [split, List.map_append, List.map_cons]
    simp only [final, parts]
    exact accepted_of_member room (before.map (·.2)) (after.map (·.2)) _ visit member
  · exact admits.countP_of_complete split
  · obtain ⟨queue, t, admitted, known⟩ :=
      Server.admitUser_of_running a clock running intake fits
    rw [admitted]
    exact ⟨queue, rfl, known⟩
  · exact Server.hubOf_admitUser_of_error (Prod.ext failed rfl)

end Admits

open Sample in
/-- `ann` joins twice at the same time, with equal notices. -/
def twice : Bool → Admission
  | true => ⟨annId, ann, .epoch⟩
  | false => ⟨rootId, ann, .epoch⟩

open Sample in
/-- The first connection of `ann` gets the notice of the second, which looks like its own, if it is
registered before it. -/
theorem join_protocol_twice :
    let history : List (Option Bool × Event × Visit) :=
      [(some true, .broadcast ((twice true).notice studio), .inOrder),
        (none, .broadcast (saying "one"), .inOrder),
        (some true, .register annId ann 4, .inOrder),
        (some false, .broadcast ((twice false).notice studio), .inOrder),
        (none, .broadcast (saying "two"), .inOrder),
        (some false, .register rootId ann 4, .inOrder)]
    Admits studio 4 twice history ∧
      ∃ part, part <+: [(.broadcast ((twice false).notice studio), Visit.inOrder),
          (.broadcast (saying "two"), .inOrder), (.register rootId ann 4, .inOrder)] ∧
        ((start studio).run (history.map (·.2))).taken ⟨annId, 0⟩ ++
          ((start studio).run (history.map (·.2))).pending ⟨annId, 0⟩ = broadcasts part := by
  intro history
  have admits : Admits studio 4 twice history := ⟨by decide, by decide, by decide⟩
  exact ⟨admits, ((join_protocol studio 4 twice history admits).1 true
    [(some true, .broadcast ((twice true).notice studio), .inOrder),
      (none, .broadcast (saying "one"), .inOrder)] .inOrder _ rfl).2⟩

end Hub
end RoomHub
