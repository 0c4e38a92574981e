import Mathlib.Data.List.Induction
import RoomHub.Proofs.Http.Coupling
import RoomHub.Proofs.Http.Routing
import RoomHub.Proofs.World.Handles
import RoomHub.Proofs.World.Provenance

/-!
# One live hub for each room

The hubs of a server after any history (`OneHub`): no room has two of them, a room has one if and
only if an admission to it was executed, a hub that is there stays and runs, and so nobody who turns
to the hub of a room is ever told that it is gone.  `mem_rooms_happen_iff` says which rooms get a
hub in one happening, and `mem_rooms_through_iff` follows by induction on the history.  That hubs
run is due to the entries of the registry, which hold them (`Held.after_eq`).
-/

namespace RoomHub

open Http

namespace Server

variable {s : Server} {room : RoomId}

/-- Who enrolls in a room with a hub is not refused. -/
theorem Lasting.register_fst_ne (h : s.Lasting) (there : room ∈ s.rooms) (id : ConnectionId)
    (user : Identity) (capacity : Nat) (why : HubClosed) :
    (s.register room id user capacity).1 ≠ .error (.refused why) := by
  obtain ⟨hub, known, running⟩ := h.exists_hub there
  by_cases fits : canHold capacity = true
  · obtain ⟨t, entered, -⟩ := register_of_running known running fits id user
    rw [entered]
    exact nofun
  · simp [register, fits]

/-- A reader that can reach the hub of its room does not end for want of it. -/
theorem Lasting.take_fst_ne (h : s.Lasting) (there : room ∈ s.rooms) (config : ConnectionConfig)
    (sender : Identity) (time deadline : Nat) (arrival : Arrival) :
    (ReadPump.take config false room sender time deadline s arrival).1 ≠
      some (.ended .hubGone) := by
  unfold ReadPump.take
  cases judged : ReadPump.judge config arrival with
  | stop why =>
    rintro ended
    cases ended
    -- the frame itself would have to say that the hub is gone
    have payload : ∀ bytes, ReadPump.judgePayload config bytes ≠ .stop .hubGone := by
      intro bytes
      unfold ReadPump.judgePayload
      split_ifs
      · rintro ⟨⟩
      · split <;> rintro ⟨⟩
    cases arrival with
    | endOfStream => cases judged
    | failure reason => cases judged
    | frame f =>
      cases f with
      | text content => exact payload _ judged
      | binary bytes => exact payload _ judged
      | _ => cases judged
  | alive => rintro ⟨⟩
  | relay m =>
    have heard := h.relay_fst there sender m.kind m.content
    simp only [ReadPump.relay, Bool.false_eq_true, if_false]
    split
    · rintro ⟨⟩
    · rintro ⟨⟩
    next done =>
      rw [done] at heard
      split_ifs at heard
      · cases heard
      · split at heard <;> cases heard
    · rintro ⟨⟩

end Server

namespace Http

variable {s : Server} {r : Request} {segment : List Char} {room : RoomId} {user : Identity}

/-- The answer to an administrator who closes a room says whether the room has a hub. -/
theorem answer_close_of_admin (lasting : s.Lasting) (posted : r.method = "POST")
    (route : r.route? = some (.close segment)) (named : roomOf? segment = some room)
    (known : (identify s r).1 = .ok (some user)) (admin : user.role = .admin) :
    (s.answer r).response =
      if room ∈ s.rooms ∧ s.clock = none then .error {}
      else .ok (finish s r
        (.json 200 (Wire.Closure.write ⟨"Room Closed", decide (room ∈ s.rooms)⟩))) := by
  obtain ⟨raw, decoded, read⟩ := text_of_roomOf? named
  obtain ⟨notices, said⟩ := identify_eq s r
  rw [known] at said
  have lasting' : (s.report notices).Lasting := ⟨lasting.once, lasting.running⟩
  have closed : ((s.report notices).closeRoom user room).1 =
      if room ∈ s.rooms ∧ s.clock = none then .error (.crashed {})
      else .ok (decide (room ∈ s.rooms)) := lasting'.closeRoom_fst admin room
  rw [answer_of_identified said route (by simp [Route.methods, posted])]
  simp only [answerRoute, answerClose, decoded, read]
  rcases done : (s.report notices).closeRoom user room with ⟨result, t⟩
  rw [done] at closed
  dsimp only at closed
  subst closed
  split_ifs <;> rfl

end Http

namespace World

open Server

variable {w start : World} {time : Nat} {x : Happening} {room : RoomId}
  {history : List (Nat × Happening)}

/-- Some admission to a room was executed in a history. -/
def Reached (start : World) (history : List (Nat × Happening)) (room : RoomId) : Prop :=
  ∃ before time x, before ++ [(time, x)] <+: history ∧ x.Reaches (start.through before) room

theorem reached_concat :
    Reached start (history ++ [(time, x)]) room ↔
      Reached start history room ∨ x.Reaches (start.through history) room := by
  constructor
  · rintro ⟨before, earlier, y, within, reaches⟩
    rcases List.prefix_concat_iff.1 within with last | within
    · obtain ⟨rfl, same⟩ := List.append_inj' last rfl
      cases same
      exact .inr reaches
    · exact .inl ⟨before, earlier, y, within, reaches⟩
  · rintro (⟨before, earlier, y, within, reaches⟩ | reaches)
    · exact ⟨before, earlier, y, within.trans (List.prefix_append _ _), reaches⟩
    · exact ⟨history, time, x, List.prefix_refl _, reaches⟩

theorem settings_happen (w : World) (time : Nat) (x : Happening) :
    (w.happen time x).server.settings = w.server.settings := by
  refine (leads_happen w time x).fixed.1.trans ?_
  cases x with
  | step x => cases x <;> rfl
  | _ => rfl

theorem settings_through (w : World) (history : List (Nat × Happening)) :
    (w.through history).server.settings = w.server.settings :=
  through_of_happen (P := fun v => v.server.settings = w.server.settings)
    (fun v time x same => (settings_happen v time x).trans same) rfl history

/-- The rooms that have a hub after a history of a server that had none. -/
theorem mem_rooms_through_iff (fresh : start.server.rooms = []) :
    room ∈ (start.through history).server.rooms ↔
      canHold start.server.settings.intakeCapacity = true ∧ Reached start history room := by
  induction history using List.reverseRecOn with
  | nil =>
    refine iff_of_false (by simp [World.through, fresh]) ?_
    rintro ⟨-, before, time, x, within, -⟩
    simp at within
  | append_singleton history x ih =>
    rw [through_concat, mem_rooms_happen_iff, ih, reached_concat, settings_through]
    tauto

/-- Nothing but an executed admission founds a hub. -/
theorem rooms_happen_of_not_reaches (time : Nat) (unreached : ∀ room, ¬ x.Reaches w room) :
    (w.happen time x).server.rooms = w.server.rooms := by
  obtain ⟨new, grown, founded⟩ := rooms_happen w time x
  cases new with
  | nil => rw [grown, List.append_nil]
  | cons room new =>
    cases founded room List.mem_cons_self with
    | founded reaches _ => exact absurd reaches (unreached room)

theorem route_of_reaches {id : ConnectionId} {r : Request}
    (reaches : Happening.Reaches w (.step (.request id r)) room) :
    ∃ segment user, r.route? = some (.collaboration segment) ∧ roomOf? segment = some room ∧
      w.server.Verifies r user := by
  cases reaches with
  | request enters =>
    obtain ⟨-, verified, segment, route, named⟩ := invites_of_entering enters
    exact ⟨segment, _, route, named, verified⟩

/-- Rooms with a hub keep their places. -/
theorem rooms_prefix_through (w : World) (more : List (Nat × Happening)) :
    w.server.rooms <+: (w.through more).server.rooms := by
  induction more generalizing w with
  | nil => exact List.prefix_refl _
  | cons x more ih =>
    obtain ⟨new, grown, -⟩ := rooms_happen w x.1 x.2
    exact .trans ⟨new, grown.symm⟩ (ih _)

/-- A hub stays, and all that becomes of it is what it makes of events. -/
theorem hub?_through {hub : Hub} (known : w.server.hub? room = some hub)
    (more : List (Nat × Happening)) :
    ∃ events, (w.through more).server.hub? room = some (hub.runInOrder events) := by
  induction more generalizing w hub with
  | nil => exact ⟨[], known⟩
  | cons x more ih =>
    have known : (x.2.dated w.server).hub? room = some hub := by
      rw [Server.hub?, x.2.hubs_dated]
      exact known
    obtain ⟨events, later⟩ := (leads_happen w x.1 x.2).hub?_run known
    obtain ⟨more', last⟩ := ih later
    exact ⟨events ++ more', last.trans (by simp [Hub.runInOrder, Hub.run])⟩

/-- A server that has just started has no hub, so all that it has run. -/
theorem lasting_start {settings : Settings} {store : ChatStore} {clock : Option Calendar.Instant}
    {now : Nat} {s : Server} (started : Server.start settings store clock now = .ok s) :
    (ofServer s).Lasting := by
  have fresh := Server.hubs_start started
  refine lasting_ofServer ⟨by simp [Server.rooms, fresh], ?_⟩
  rw [fresh]
  exact fun _ there => absurd there List.not_mem_nil

/-- What is known of the hubs of a server after a history. -/
structure OneHub (start : World) (history : List (Nat × Happening)) : Prop where
  /-- No room has two hubs. -/
  once : (start.through history).server.rooms.Nodup
  /-- No hub has stopped. -/
  running : ∀ hub ∈ (start.through history).server.hubs, hub.running = true
  /-- The registry has an entry for each of them and keeps it.  So, although a hub stops and cannot
  be reached any more once nobody holds it, that happens to none of them. -/
  held : ∀ events, Held.happenings events = history →
    ((Held.start start).after events).world = start.through history ∧
    ∀ room, room ∈ ((Held.start start).after events).handles.entries ↔
      room ∈ (start.through history).server.rooms
  /-- Without an entry it would: with other handles, just those hubs go on that somebody holds. -/
  stops : ∀ h, ∀ hub ∈ ((start.through history).settle h).server.hubs,
    hub.running = true ↔ h.holds hub.room = true
  /-- The rooms with a hub are those to which an admission was executed, if the queue of a hub can
  be made at all. -/
  reached : ∀ room, room ∈ (start.through history).server.rooms ↔
    canHold start.server.settings.intakeCapacity = true ∧ Reached start history room
  /-- Whatever is no execution of an admission founds no hub. -/
  spares : ∀ time x, (∀ room, ¬ x.Reaches (start.through history) room) →
    (start.through (history ++ [(time, x)])).server.rooms = (start.through history).server.rooms
  /-- Only a request of a verified user to enter a room executes an admission to it. -/
  enters : ∀ id r room, Happening.Reaches (start.through history) (.step (.request id r)) room →
    ∃ segment user, r.route? = some (.collaboration segment) ∧ roomOf? segment = some room ∧
      (start.through history).server.Verifies r user
  /-- No refused request executes an admission. -/
  refuses : ∀ id r response, ((start.through history).server.answer r).response = .ok response →
    response.Refuses → ∀ room,
      ¬ Happening.Reaches (start.through history) (.step (.request id r)) room
  ascending : (start.through history).server.roomIds.Pairwise (· < ·)
  listed : ∀ room, room ∈ (start.through history).server.roomIds ↔
    room ∈ (start.through history).server.rooms
  /-- The rooms with a hub keep their places in all that follows. -/
  grows : ∀ more, (start.through history).server.rooms <+:
    (start.through (history ++ more)).server.rooms
  /-- The hub that a room has is the one that it has later, after some events. -/
  stays : ∀ room hub, (start.through history).server.hub? room = some hub → ∀ more, ∃ events,
    (start.through (history ++ more)).server.hub? room = some (hub.runInOrder events)
  /-- Whoever asks for a hub gets the one that is there. -/
  resolves : ∀ room hub, (start.through history).server.hub? room = some hub →
    (start.through history).server.resolve room = .ok (start.through history).server
  /-- Whoever asks for a hub that is not there yet gets a fresh one. -/
  founds : ∀ room t, (start.through history).server.hub? room = none →
    (start.through history).server.resolve room = .ok t → t.hub? room = some (Hub.start room)
  /-- A hub takes whatever is sent to it. -/
  hears : ∀ room ∈ (start.through history).server.rooms, ∀ e,
    ((start.through history).server.send room e).1 = .ok ()
  /-- No admission fails for want of a hub, neither one that is made at once nor one in parts. -/
  admits : ∀ id user room why,
    ((start.through history).server.admitUser id user room).1 ≠ .error (.refused why)
  enrolls : ∀ room ∈ (start.through history).server.rooms, ∀ id user capacity why,
    ((start.through history).server.register room id user capacity).1 ≠ .error (.refused why)
  /-- No closing fails for want of a hub.  It notifies the room if there is a hub, and it is lost
  only if the clock shows no time. -/
  closes : ∀ user room, user.role = .admin →
    ((start.through history).server.closeRoom user room).1 =
      if room ∈ (start.through history).server.rooms ∧ (start.through history).server.clock = none
      then .error (.crashed {}) else .ok (decide (room ∈ (start.through history).server.rooms))
  /-- That is what an administrator who closes a room is told. -/
  answers : ∀ r segment room user, r.method = "POST" → r.route? = some (.close segment) →
    roomOf? segment = some room →
    (identify (start.through history).server r).1 = .ok (some user) → user.role = .admin →
    ((start.through history).server.answer r).response =
      if room ∈ (start.through history).server.rooms ∧ (start.through history).server.clock = none
      then .error {}
      else .ok (finish (start.through history).server r (.json 200 (Wire.Closure.write
        ⟨"Room Closed", decide (room ∈ (start.through history).server.rooms)⟩)))
  /-- With other handles, just those connections could reach their hub whose hub somebody holds. -/
  cutsOff : ∀ h, ∀ c ∈ ((start.through history).settle h).connections,
    c.linked = true ↔ h.holds c.participant.room = true
  /-- No reader ends because the hub of its room is gone. -/
  reads : ∀ c ∈ (start.through history).connections, ∀ time deadline arrival,
    (ReadPump.take c.config (!c.linked) c.participant.room c.participant.identity time deadline
      (start.through history).server arrival).1 ≠ some (.ended .hubGone)

/-- A server that has just started has one live hub for each room, whatever happens to it. -/
theorem one_live_hub {settings : Settings} {store : ChatStore} {clock : Option Calendar.Instant}
    {now : Nat} {s : Server} (started : Server.start settings store clock now = .ok s)
    (history : List (Nat × Happening)) : OneHub (ofServer s) history := by
  have fresh := Server.hubs_start started
  have empty : s.rooms = [] := by simp [Server.rooms, fresh]
  have lasting := (lasting_start started).through history
  exact
    { once := lasting.server.once
      running := lasting.server.running
      held := by
        rintro events rfl
        exact Held.after_eq (lasting_start started) empty events
      stops := fun h hub => lasting.running_settle_iff
      reached := fun room => mem_rooms_through_iff empty
      spares := fun time x unreached => by
        rw [through_concat]
        exact rooms_happen_of_not_reaches time unreached
      enters := fun id r room reaches => route_of_reaches reaches
      refuses := fun _ _ _ given refuses => not_reaches_of_refuses rfl given refuses
      ascending := RoomId.pairwise_sorted _
      listed := fun room => mem_roomIds
      grows := fun more => through_append _ history more ▸ rooms_prefix_through _ more
      stays := fun room hub known more => through_append _ history more ▸ hub?_through known more
      resolves := fun room hub known => by simp only [Server.resolve, known]
      founds := fun room t absent found => by
        rw [hub?_resolve found, hubOf, absent]
        rfl
      hears := fun room there => lasting.server.send_fst there
      admits := lasting.server.admitUser_fst_ne
      enrolls := fun room there => lasting.server.register_fst_ne there
      closes := fun user room admin => lasting.server.closeRoom_fst admin room
      answers := fun r segment room user posted route named known admin =>
        answer_close_of_admin lasting.server posted route named known admin
      cutsOff := fun h c => lasting.linked_settle_iff
      reads := fun c there time deadline arrival => by
        obtain ⟨linked, known⟩ := lasting.linked c there
        rw [linked]
        exact
          lasting.server.take_fst_ne known c.config c.participant.identity time deadline arrival }

/-- Two callers who turn to the same new room get one hub. -/
theorem one_live_hub_twice :
    Server.start Sample.settings (.log (.withCapacity 1)) none 0 = .ok Sample.server ∧
      OneHub (ofServer Sample.server)
        [(0, .resolve Sample.studio), (0, .resolve Sample.cellar), (1, .resolve Sample.studio)] ∧
      ((ofServer Sample.server).through [(0, .resolve Sample.studio), (0, .resolve Sample.cellar),
        (1, .resolve Sample.studio)]).server.rooms = [Sample.studio, Sample.cellar] := by
  have started : Server.start Sample.settings (.log (.withCapacity 1)) none 0 = .ok Sample.server :=
    rfl
  exact ⟨started, one_live_hub started _, by decide⟩

end World
end RoomHub
