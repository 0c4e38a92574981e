import RoomHub.Proofs.Connection.Cleanup

/-!
# Who speaks in a room

A reader hands on what its peer sends until somebody ends it; neither it nor the hub asks whether
the connection is still a member.  So a connection that was evicted goes on speaking while its
writer is busy (`evicted_speaks`).  Nothing else lets one speak who is no member: what reaches the
hub before its farewell comes from a member, or from one whom a broadcast has evicted since
(`speaking`).
-/

namespace RoomHub
namespace Hub

variable {hub : Hub} {queue : QueueId} {b : Outbox}

theorem runInOrder_append (hub : Hub) (events more : List Event) :
    hub.runInOrder (events ++ more) = (hub.runInOrder events).runInOrder more := by
  simp only [runInOrder, List.map_append, run_append]

theorem mem_ids_of_isAttached (h : hub.Sound) (fed : hub.isAttached queue = true) :
    queue.owner ∈ hub.members.map (·.id) := by
  obtain ⟨x, hx, rfl⟩ := (isAttached_iff hub queue).1 fed
  rw [h.owner x hx]
  exact List.mem_map_of_mem hx

/-- One of the broadcasts among some events has found the outbox of a member full or closed, and
nothing was put into it from then on. -/
def Evicts (hub : Hub) (queue : QueueId) (events : List Event) : Prop :=
  ∃ before m after, events = before ++ .broadcast m :: after ∧
    queue.owner ∈ (hub.runInOrder before).members.map (·.id) ∧
    (hub.runInOrder before).hasRoom queue = false ∧
    (hub.runInOrder events).accepted queue = (hub.runInOrder before).accepted queue

/-- An outbox that the hub has given up, though its owner was neither registered nor unregistered,
is that of a member whom a broadcast has evicted. -/
theorem evicts_of_given_up (h : hub.Sound) (hb : hub.outbox? queue = some b)
    (fed : hub.isAttached queue = true) {events : List Event}
    (others : ∀ e ∈ events, e.subject? ≠ some queue.owner)
    (given_up : (hub.runInOrder events).isAttached queue = false) : hub.Evicts queue events := by
  induction events generalizing hub b with
  | nil => exact absurd (fed.symm.trans given_up) (by decide)
  | cons e events ih =>
    have sound := h.handle .inOrder e
    have hb' := outbox?_handle h hb .inOrder e
    have fed' := isAttached_handle h hb .inOrder e
    rw [fed, Bool.true_and] at fed'
    cases keeps : e.keeps queue b with
    | true =>
      obtain ⟨before, m, after, rfl, member, full, same⟩ := ih sound hb' (fed'.trans keeps)
        (fun e he => others e (List.mem_cons_of_mem _ he)) given_up
      exact ⟨e :: before, m, after, rfl, member, full, same⟩
    | false =>
      have refused : ¬ hub.Retains queue e := by
        rw [← keeps_iff_retains hb, keeps]
        decide
      have full : e.message?.isSome = true ∧ hub.hasRoom queue = false := by
        simpa [Retains, others e List.mem_cons_self] using refused
      cases e with
      | broadcast m =>
        exact ⟨[], m, events, rfl, mem_ids_of_isAttached h fed, full.2,
          accepted_of_not_hasRoom h hb full.2 .inOrder m _⟩
      | _ => cases full.1

end Hub

namespace Server

/-- What is relayed is handled by a hub that runs. -/
theorem running_of_relay {s t : Server} {room : RoomId} {sender : Identity} {kind : MessageKind}
    {content : String} {m : Message}
    (relayed : s.relay room sender kind content = (.ok m, t)) :
    ∃ hub, s.hub? room = some hub ∧ hub.running = true := by
  unfold relay at relayed
  split_ifs at relayed
  · cases relayed
  · split at relayed
    · cases relayed
    next time shown =>
      dsimp only at relayed
      generalize Message.ofClient kind content sender room time = m' at relayed
      have kept : (if m'.isChat then s.persist m' else s).hub? room = s.hub? room := by
        split_ifs
        · rw [hub?, hubs_persist]
          rfl
        · rfl
      generalize (if m'.isChat then s.persist m' else s) = t' at relayed kept
      obtain refused | ⟨hub, notices, known, running, -⟩ := send_cases t' room (.broadcast m')
      · rw [refused] at relayed
        cases relayed
      · exact ⟨hub, kept.symm.trans known, running⟩

end Server

namespace Service

variable {x : Service} {time : Nat} {i : Incident} {course : List (Nat × Incident)}

/-- A message that the connection hands to the hub comes from its reader and meets a running hub. -/
theorem running_of_broadcast {m : Connection.Move} {message : Message}
    (allows : x.allows time (.own m) = true)
    (heard : .broadcast message ∈ x.hears time (.own m)) :
    x.connection.reading = true ∧ ∃ hub, x.hub? = some hub ∧ hub.running = true := by
  refine ⟨?_, ?_⟩
  · have outcome := outcome_step allows
    generalize x.demands time (.own m) = demands, x.hears time (.own m) = events at outcome heard
    cases outcome with
    | relays _ before => exact before
    | ends => cases Connection.eq_of_mem_parting heard
    | crashes => cases heard
    | aside _ _ _ own => rcases own _ heard with e | e <;> cases e
  · obtain ⟨before, demand, -, -, found⟩ := Connection.exists_demand heard
    cases demand with
    | relay kind content =>
      have met := x.connection.undergoes_demands x.server before x.room
      rw [if_pos (show x.room = x.connection.participant.room from rfl)] at met
      rcases handed : (before.foldl x.connection.meet x.server).relay
          x.connection.participant.room x.connection.participant.identity kind content with
        ⟨result, t⟩
      simp only [Connection.event?, handed] at found
      cases result with
      | error why => cases found
      | ok m =>
        obtain ⟨hub', known', running⟩ := Server.running_of_relay handed
        obtain ⟨hub, known, rfl⟩ := Option.map_eq_some_iff.1 (met.symm.trans known')
        exact ⟨hub, known, (Hub.foldl_obey_keeps_running hub _).symm.trans running⟩
    | _ => cases found

/-- A connection whose reader works has not said farewell. -/
theorem farewells_of_reading (allowed : x.allowed course = true)
    (reading : (x.after course).connection.reading = true) : x.farewells course = 0 := by
  induction course generalizing x with
  | nil => rfl
  | cons i course ih =>
    obtain ⟨time, i⟩ := i
    obtain ⟨first, rest⟩ := Bool.and_eq_true_iff.1 allowed
    have gone (stops : (x.step time i).connection.reading = false) : False :=
      absurd ((ended_after stops rest).1.symm.trans reading) (by decide)
    cases watch first with
    | stays _ _ quiet => rw [farewells_cons, quiet, ih rest reading]
    | ends _ _ _ stops => exact (gone stops).elim
    | crashes _ stops => exact (gone stops).elim

/-- Only the connection itself unregisters it, and nobody registers it. -/
theorem subject_of_hears (allows : x.allows time i = true)
    (quiet : (x.demands time i).countP Connection.Demand.isFarewell = 0) {e : Hub.Event}
    (heard : e ∈ x.hears time i) : e.subject? ≠ some x.self := by
  have entering := entrant_of_hears allows heard
  intro about
  cases e with
  | register id user capacity => exact entering about
  | unregister id =>
    cases about
    cases i with
    | own m =>
      obtain ⟨before, demand, after, split, found⟩ := Connection.exists_demand heard
      have asked : demand ∈ m.demands x.connection time x.server :=
        split ▸ List.mem_append_right _ List.mem_cons_self
      have silent := List.countP_eq_zero.1 quiet demand asked
      cases demand with
      | unregister => exact silent rfl
      | relay kind content =>
        simp only [Connection.event?, Option.map_eq_some_iff] at found
        obtain ⟨_, _, found⟩ := found
        cases found
      | _ => cases found
    | other room e' =>
      simp only [hears] at heard
      split_ifs at heard with here
      · cases List.mem_singleton.1 heard
        simp [Service.allows, here, Hub.Event.concerns, Hub.Event.message?] at allows
      · cases heard
    | _ => cases heard
  | _ => cases about

theorem subject_along (allowed : x.allowed course = true) (silent : x.farewells course = 0) :
    ∀ e ∈ along hears x course, e.subject? ≠ some x.self := by
  induction course generalizing x with
  | nil =>
    intro e heard
    cases heard
  | cons i course ih =>
    obtain ⟨time, i⟩ := i
    obtain ⟨first, rest⟩ := Bool.and_eq_true_iff.1 allowed
    rw [farewells_cons, Nat.add_eq_zero_iff] at silent
    intro e heard
    rcases List.mem_append.1 heard with heard | heard
    · exact subject_of_hears first silent.1 heard
    · rw [← self_step x time i]
      exact ih rest silent.2 e heard

/-- A hub that still runs has handled all that has reached it. -/
theorem hub?_after_of_running {hub hub' : Hub} (known : x.hub? = some hub)
    (known' : (x.after course).hub? = some hub') (running : hub'.running = true) :
    hub.running = true ∧ hub' = hub.runInOrder (along hears x course) := by
  induction course generalizing x hub with
  | nil =>
    cases known.symm.trans known'
    exact ⟨running, rfl⟩
  | cons i course ih =>
    obtain ⟨time, i⟩ := i
    rcases x.hub?_step time i with heard | stopped | ⟨absent, -⟩
    · simp only [known, Option.map_some] at heard
      obtain ⟨still, rfl⟩ := ih heard known'
      rw [Hub.foldl_obey_keeps_running] at still
      rw [along, Hub.runInOrder_append, Hub.foldl_obey_of_running still]
      exact ⟨still, rfl⟩
    · rw [known] at stopped
      exact absurd (ih stopped known').1 (by simp [Hub.stop])
    · cases known.symm.trans absent

/-- An admitted connection has an outbox that its hub feeds. -/
theorem hub?_start {s s' : Server} (sound : s.Sound) {id : ConnectionId} {user : Identity}
    {room : RoomId} {c : Connection} (admitted : s.admitUser id user room = (.ok c.participant, s'))
    (now : Nat) :
    ∃ hub b, (start now c s').hub? = some hub ∧ hub.Sound ∧
      hub.outbox? c.participant.queue = some b ∧ hub.isAttached c.participant.queue = true ∧
      c.participant.queue.owner = c.participant.id := by
  obtain ⟨same, -, here⟩ := Server.participant_of_admitUser (congrArg Prod.fst admitted)
  obtain ⟨hub, queue, known⟩ := Server.registered_of_admitUser admitted
  set capacity := s.settings.config.queueCapacity
  have sound' : s'.Sound := by
    have leads := Server.leads_admitUser (P := fun _ _ => True) s id user room
      (fun _ _ _ _ => trivial) (fun _ => trivial) fun _ => trivial
    rw [admitted] at leads
    exact leads.sound sound
  set entered := (hub.handle .inOrder (.register id user capacity)).1
  have soundly : entered.Sound := sound' entered (Server.hub?_mem known)
  have outbox : entered.outbox? c.participant.queue = some (.empty capacity) := by
    rw [queue]
    exact hub.outbox?_register ..
  have fed : entered.isAttached c.participant.queue = true := by
    rw [queue]
    exact hub.isAttached_register ..
  have owner : c.participant.queue.owner = c.participant.id := by
    rw [queue, same]
    rfl
  have look : (start now c s').hub? = (c.release s').hub? room := by
    rw [← here]
    rfl
  rw [look]
  unfold Connection.release
  split_ifs
  · -- a writer that has crashed at once takes nothing, but its outbox is still fed
    have released := Server.undergoes_receive s' c.participant.room
      (e := .dropReceiver c.participant.queue) rfl room
    rw [if_pos here.symm, known] at released
    have given_up := Hub.outbox?_handle soundly outbox .inOrder (.dropReceiver c.participant.queue)
    exact ⟨_, _, released, soundly.obey (.dropReceiver c.participant.queue), given_up, fed, owner⟩
  · exact ⟨_, _, known, soundly, outbox, fed, owner⟩

/-- Whatever a connection hands to its hub, it is a member of the room by then. -/
def OnlyMembersSpeak (x : Service) (course : List (Nat × Incident)) : Prop :=
  ∀ before time m rest message, course = before ++ (time, .own m) :: rest →
    .broadcast message ∈ (x.after before).hears time (.own m) → (x.after before).IsMember

theorem not_isMember_stalled : ¬ (stalled.after (eviction.take 4)).IsMember := by
  have nobody : (stalled.after (eviction.take 4)).hub?.map (·.members) = some [] := by
    decide +kernel
  rintro ⟨hub, known, member⟩
  simp only [known, Option.map_some, Option.some.injEq] at nobody
  simp [nobody] at member

open Sample in
/-- `ann` has been evicted, but her writer is still busy, and what her peer says is handed on. -/
theorem evicted_speaks :
    (narrow.admitUser annId ann studio).1 = .ok stalled.connection.participant ∧
      stalled.Begins ∧ stalled.allowed eviction = true ∧ ¬ stalled.OnlyMembersSpeak eviction := by
  refine ⟨rfl, begins_stalled, by decide +kernel, fun only => ?_⟩
  have asked : .broadcast (saying "hi") ∈
      (stalled.after (eviction.take 4)).hears 1000 (.own .read) := by decide +kernel
  exact not_isMember_stalled (only (eviction.take 4) 1000 .read [] _ rfl asked)

/-- What an admitted connection says reaches a running hub, before the farewell of the connection;
and it comes from a member, or from one whom a broadcast has evicted and who has got nothing
since. -/
theorem speaking {s s' : Server} (sound : s.Sound) {id : ConnectionId} {user : Identity}
    {room : RoomId} {c : Connection} (admitted : s.admitUser id user room = (.ok c.participant, s'))
    (now : Nat) (course : List (Nat × Incident))
    (allowed : (start now c s').allowed course = true) :
    let x := start now c s'
    ∀ before time m rest message, course = before ++ (time, .own m) :: rest →
      .broadcast message ∈ (x.after before).hears time (.own m) →
      x.farewells before = 0 ∧
        ∃ hub, x.hub? = some hub ∧
          (x.after before).hub? = some (hub.runInOrder (along hears x before)) ∧
          (hub.runInOrder (along hears x before)).running = true ∧
          ((x.after before).IsMember ∨ hub.Evicts c.participant.queue (along hears x before)) := by
  intro x before time m rest message split heard
  rw [split, allowed_append] at allowed
  obtain ⟨allowed, next⟩ := allowed
  obtain ⟨reading, hub', known', running⟩ :=
    running_of_broadcast (Bool.and_eq_true_iff.1 next).1 heard
  -- a reader that speaks has not said farewell, so nobody has unregistered the connection
  have silent := farewells_of_reading allowed reading
  obtain ⟨hub, b, known, soundly, outbox, fed, owner⟩ := hub?_start sound admitted now
  obtain ⟨-, rfl⟩ := hub?_after_of_running known known' running
  refine ⟨silent, hub, known, known', running, ?_⟩
  cases still : (hub.runInOrder (along hears x before)).isAttached c.participant.queue with
  | true =>
    refine .inl ⟨_, known', ?_⟩
    rw [self_after, show x.self = c.participant.queue.owner from owner.symm]
    exact Hub.mem_ids_of_isAttached (soundly.run _) still
  | false =>
    refine .inr (Hub.evicts_of_given_up soundly outbox fed (fun e heard about => ?_) still)
    exact subject_along allowed silent e heard (about.trans (congrArg some owner))

open Sample in
/-- When `ann` speaks after her eviction, she has got nothing since. -/
theorem speaking_stalled :
    let before := eviction.take 4
    stalled.allowed eviction = true ∧
      .broadcast (saying "hi") ∈ (stalled.after before).hears 1000 (.own .read) ∧
      stalled.farewells before = 0 ∧
      ∃ hub, stalled.hub? = some hub ∧ hub.Evicts ⟨annId, 0⟩ (along hears stalled before) := by
  intro before
  have sound : narrow.Sound := fun hub present => by cases present
  have admitted : narrow.admitUser annId ann studio =
      (.ok stalled.connection.participant, (narrow.admitUser annId ann studio).2) := rfl
  have allowed : stalled.allowed eviction = true := by decide +kernel
  have heard : .broadcast (saying "hi") ∈ (stalled.after before).hears 1000 (.own .read) := by
    decide +kernel
  obtain ⟨silent, hub, known, -, -, member | evicts⟩ :=
    speaking sound admitted 0 eviction allowed before 1000 .read [] _ rfl heard
  · exact absurd member not_isMember_stalled
  · exact ⟨allowed, heard, silent, hub, known, evicts⟩

end Service
end RoomHub
