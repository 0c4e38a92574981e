import RoomHub.Proofs.Http.Answers
import RoomHub.Proofs.World.Course

/-!
# What steps do

A move of a connection broadcasts only what its reader makes of the next frame (`leads_perform`), and
a request only the closing of a room or the coming of who is admitted (`leads_request`).  A connection
stays that of its participant (`participant_perform`), and only its peer's frames enter its inbox
(`inbox_perform`). A world that runs by itself makes steps, too (`runTurns_eq_after`).
-/

namespace RoomHub
namespace ReadPump

variable {P : RoomId → Server.Change → Prop}

/-- Only data frames that can be decoded are relayed. -/
theorem judge_relay {config : ConnectionConfig} {arrival : Arrival} {m : Wire.Inbound}
    (judged : judge config arrival = .relay m) :
    ∃ f, arrival = .frame f ∧ Transport.isControl f = false ∧
      Wire.Inbound.decode f.payload = .ok m := by
  have payload : ∀ bytes, judgePayload config bytes = .relay m →
      Wire.Inbound.decode bytes = .ok m := by
    intro bytes judged
    unfold judgePayload at judged
    split_ifs at judged
    split at judged
    next decoded =>
      cases judged
      exact decoded
    · cases judged
  cases arrival with
  | endOfStream => cases judged
  | failure reason => cases judged
  | frame f =>
    cases f with
    | text s => exact ⟨_, rfl, rfl, payload _ judged⟩
    | binary bytes => exact ⟨_, rfl, rfl, payload _ judged⟩
    | ping bytes => cases judged
    | pong bytes => cases judged
    | close reason => cases judged

theorem leads_relay (s : Server) (gone : Bool) (room : RoomId) (sender : Identity)
    (m : Wire.Inbound)
    (allowed : ∀ time, s.clock = some time → m.kind ≠ .roomClosed →
      P room (.handled (.broadcast (.ofClient m.kind m.content sender room time))))
    (saved : ∀ m, P room (.saved m)) :
    Server.Leads P s (relay s gone room sender m).2 := by
  have relayed := s.leads_relay room sender m.kind m.content allowed saved
  unfold relay
  split_ifs
  · exact .quiet rfl
  · split
    next heq => rwa [heq] at relayed
    next heq =>
      rw [heq] at relayed
      exact relayed.trans (Server.leads_report _ _)
    next heq => rwa [heq] at relayed
    next heq => rwa [heq] at relayed

end ReadPump

namespace Connection

open Server

variable {P : RoomId → Server.Change → Prop} {c : Connection} {s : Server}

theorem participant_send (c : Connection) (time : Nat) (frames : List Frame) :
    (c.send time frames).participant = c.participant := by
  unfold send
  split_ifs <;> rfl

theorem leads_unregister (c : Connection) (s : Server)
    (events : ∀ e : Hub.Event, e.message? = none → e.entrant? = none →
      P c.participant.room (.handled e)) :
    Leads P s (c.unregister s) :=
  Server.leads_unregister s c.linked _ _ (events _ rfl rfl)

theorem leads_release (c : Connection) (s : Server)
    (events : ∀ e : Hub.Event, e.message? = none → e.entrant? = none →
      P c.participant.room (.handled e)) :
    Leads P s (c.release s) := by
  unfold release
  split_ifs
  · exact leads_receive s _ _ (events _ rfl rfl)
  · exact .quiet rfl

theorem leads_stopReading (c : Connection) (s : Server) (why : ReadEnd)
    (events : ∀ e : Hub.Event, e.message? = none → e.entrant? = none →
      P c.participant.room (.handled e)) :
    Leads P s (c.stopReading s why).2 :=
  (leads_report s _).trans (c.leads_unregister _ events)

/-- The reader broadcasts only what it makes of the next frame. -/
theorem leads_read (c : Connection) (time : Nat) (s : Server)
    (events : ∀ e : Hub.Event, e.message? = none → e.entrant? = none →
      P c.participant.room (.handled e))
    (saved : ∀ m, P c.participant.room (.saved m))
    (relayed : ∀ arrives f rest m shown, c.inbox = (arrives, .frame f) :: rest →
      Transport.isControl f = false → Wire.Inbound.decode f.payload = .ok m →
      s.clock = some shown → m.kind ≠ .roomClosed →
      P c.participant.room (.handled (.broadcast
        (.ofClient m.kind m.content c.participant.identity c.participant.room shown)))) :
    Leads P s (c.read time s).2 := by
  unfold read
  split
  · split
    · exact c.leads_stopReading s _ events
    · exact c.leads_stopReading s _ events
  next arrives arrival rest waiting =>
    split_ifs
    · exact c.leads_stopReading s _ events
    · dsimp only
      have same : ({ c with inbox := rest }.send time (c.reply arrival)).participant =
          c.participant := participant_send _ _ _
      generalize { c with inbox := rest }.send time (c.reply arrival) = d at same
      have own : ∀ e : Hub.Event, e.message? = none → e.entrant? = none →
          P d.participant.room (.handled e) := same ▸ events
      have taken : Leads P s (ReadPump.take d.config (!d.linked) d.participant.room
          d.participant.identity time d.deadline s arrival).2.2 := by
        unfold ReadPump.take
        split
        · exact .quiet rfl
        · exact .quiet rfl
        next m judged =>
          obtain ⟨f, rfl, data, decoded⟩ := ReadPump.judge_relay judged
          rw [same]
          exact ReadPump.leads_relay s _ _ _ m
            (fun shown clock free => relayed arrives f rest m shown waiting data decoded clock free)
            saved
      split
      next heq =>
        rw [heq] at taken
        exact taken.trans (d.leads_stopReading _ _ own)
      next heq => rwa [heq] at taken
      next heq => rwa [heq] at taken

theorem leads_write (c : Connection) (task : WritePump.Task) (time : Nat) (s : Server)
    (events : ∀ e : Hub.Event, e.message? = none → e.entrant? = none →
      P c.participant.room (.handled e)) :
    Leads P s (c.write task time s).2 := by
  unfold write
  dsimp only
  set written := c.writer.perform c.config c.sink time (c.supply s) task
  have same : ({ c with writer := written.1 }.send time written.2.toList).participant =
      c.participant := participant_send _ _ _
  generalize { c with writer := written.1 }.send time written.2.toList = d at same ⊢
  have own : ∀ e : Hub.Event, e.message? = none → e.entrant? = none →
      P d.participant.room (.handled e) := same ▸ events
  refine .trans ?_ (d.leads_release _ own)
  split
  · rw [same]
    exact leads_receive s _ _ (events _ rfl rfl)
  · exact .quiet rfl

theorem leads_conclude (c : Connection) (time : Nat) (s : Server)
    (events : ∀ e : Hub.Event, e.message? = none → e.entrant? = none →
      P c.participant.room (.handled e)) :
    Leads P s (c.conclude time s).2 := by
  unfold conclude
  dsimp only
  have ended : Leads P s (if c.reading then c.unregister s else s) := by
    split_ifs
    · exact c.leads_unregister s events
    · exact .quiet rfl
  generalize (if c.reading then c.unregister s else s) = t at ended ⊢
  split_ifs
  · exact ended
  · exact ended.trans (leads_report _ _)

/-- A move broadcasts only what the reader makes of the next frame. -/
theorem leads_perform (m : Move) (c : Connection) (time : Nat) (s : Server)
    (events : ∀ e : Hub.Event, e.message? = none → e.entrant? = none →
      P c.participant.room (.handled e))
    (saved : ∀ message, m = .read → P c.participant.room (.saved message))
    (relayed : ∀ arrives f rest inbound shown, m = .read → c.inbox = (arrives, .frame f) :: rest →
      Transport.isControl f = false → Wire.Inbound.decode f.payload = .ok inbound →
      s.clock = some shown → inbound.kind ≠ .roomClosed →
      P c.participant.room (.handled (.broadcast (.ofClient inbound.kind inbound.content
        c.participant.identity c.participant.room shown)))) :
    Leads P s (m.perform c time s).2 := by
  cases m with
  | hear f => exact .quiet rfl
  | lose => exact .quiet rfl
  | read =>
    exact c.leads_read time s events (fun message => saved message rfl)
      fun a f rest i shown => relayed a f rest i shown rfl
  | write task => exact c.leads_write task time s events
  | conclude => exact c.leads_conclude time s events

/-! ### What a connection keeps -/

theorem inbox_send (c : Connection) (time : Nat) (frames : List Frame) :
    (c.send time frames).inbox = c.inbox := by
  unfold send
  split_ifs <;> rfl

/-- The reader takes arrivals away and adds none. -/
theorem read_keeps (c : Connection) (time : Nat) (s : Server) :
    (c.read time s).1.participant = c.participant ∧
      ∀ x ∈ (c.read time s).1.inbox, x ∈ c.inbox := by
  unfold read
  split
  next empty =>
    split
    · exact ⟨rfl, fun x hx => hx⟩
    · exact ⟨rfl, fun x hx => hx⟩
  next arrives arrival rest waiting =>
    split_ifs
    · exact ⟨rfl, fun x hx => hx⟩
    · dsimp only
      have later : ∀ x ∈ rest, x ∈ c.inbox := fun x hx => waiting ▸ List.mem_cons_of_mem _ hx
      split <;> simp only [stopReading, participant_send, inbox_send, true_and] <;> exact later

/-- A move leaves a connection to its participant. -/
theorem participant_perform (m : Move) (c : Connection) (time : Nat) (s : Server) :
    (m.perform c time s).1.participant = c.participant := by
  cases m with
  | hear f => rfl
  | lose => rfl
  | read => exact (c.read_keeps time s).1
  | write task => simp only [Move.perform, write, participant_send]
  | conclude => rfl

/-- Only the frames of its peer enter the inbox of a connection. -/
theorem inbox_perform (m : Move) (c : Connection) (time : Nat) (s : Server) {arrives : Nat}
    {f : Frame} (arrived : (arrives, .frame f) ∈ (m.perform c time s).1.inbox) :
    (arrives, .frame f) ∈ c.inbox ∨ m = .hear f := by
  cases m with
  | hear g =>
    simp only [Move.perform, hear, List.mem_append, List.mem_singleton, Prod.mk.injEq] at arrived
    refine arrived.imp id fun new => ?_
    have same := new.2
    unfold Transport.received at same
    dsimp only at same
    split_ifs at same
    cases same
    rfl
  | lose =>
    simpa [Move.perform, lose, Transport.broken] using arrived
  | read => exact .inl ((c.read_keeps time s).2 _ arrived)
  | write task =>
    simp only [Move.perform, write, inbox_send] at arrived
    exact .inl arrived
  | conclude => exact .inl arrived

end Connection

namespace World

open Http Server

/-- The room that a step concerns. -/
def Step.room? : Step → Option RoomId
  | .request _ r => r.room?
  | .move room _ _ => some room
  | .setClocks _ _ => none

/-- A request of a verified user for a room opens the connection of a participant. -/
structure Admits (w : World) (time : Nat) (r : Request) (p : Participant) : Prop where
  verified : w.server.Verifies r p.identity
  route : ∃ segment, r.route? = some (.collaboration segment) ∧ roomOf? segment = some p.room
  opened : ∃ c : Connection, c.participant = p ∧
    (w.step time (.request p.id r)).connections = w.connections ++ [c]

/-- The answer to a request lets a verified user into a room; to admit the user is yet to be done. -/
structure Invites (w : World) (r : Request) (user : Identity) (room : RoomId) : Prop where
  enters : (w.server.answer r).entering = some (user, room)
  verified : w.server.Verifies r user
  route : ∃ segment, r.route? = some (.collaboration segment) ∧ roomOf? segment = some room

variable {w : World} {time : Nat} {room : RoomId}

/-- An answer lets nobody in but verified users, into the room that they ask for. -/
theorem invites_of_entering {r : Request} {user : Identity}
    (enters : (w.server.answer r).entering = some (user, room)) : w.Invites r user room := by
  have effect := effect_answer w.server r
  generalize (w.server.answer r).server = t at effect
  generalize same : (w.server.answer r).entering = who at effect
  cases effect with
  | reports | closes => cases enters.symm.trans same
  | admits notices route named verified =>
    cases enters.symm.trans same
    exact ⟨enters, verified, _, route, named⟩

theorem room?_of_entering {r : Request} {user : Identity}
    (enters : (w.server.answer r).entering = some (user, room)) : r.room? = some room := by
  obtain ⟨segment, route, named⟩ := (invites_of_entering enters).route
  exact (room?_of_route route).trans named

theorem Admits.room?_eq {r : Request} {p : Participant} (admits : w.Admits time r p) :
    r.room? = some p.room := by
  obtain ⟨segment, route, named⟩ := admits.route
  exact (room?_of_route route).trans named

/-- An admission in the answer to a request opens a connection. -/
theorem admits_of_admitUser {r : Request} {user : Identity} {p : Participant}
    (enters : (w.server.answer r).entering = some (user, room))
    (admitted : ((w.server.answer r).server.admitUser p.id user room).1 = .ok p) (time : Nat) :
    w.Admits time r p := by
  obtain ⟨-, rfl, rfl⟩ := participant_of_admitUser admitted
  obtain ⟨-, verified, route⟩ := invites_of_entering enters
  have step := step_request_of_ok
    (s := ((w.server.answer r).server.admitUser p.id p.identity p.room).2)
    enters (Prod.ext admitted rfl) time
  exact ⟨verified, route, _, rfl, by rw [step]⟩

theorem leads_admission {P : RoomId → Change → Prop} {r : Request} {user : Identity}
    (enters : (w.server.answer r).entering = some (user, room)) (time : Nat) (id : ConnectionId)
    (joining : ∀ p shown, p.id = id → w.Admits time r p → w.server.clock = some shown →
      P p.room (.handled (.broadcast (.joined p.identity p.room shown))))
    (founding : canHold w.server.settings.intakeCapacity = true → P room .founded)
    (entering : canHold w.server.settings.config.queueCapacity = true →
      P room (.handled (.register id user w.server.settings.config.queueCapacity))) :
    Leads P (w.server.answer r).server ((w.server.answer r).server.admitUser id user room).2 := by
  have effect := effect_answer w.server r
  rw [enters] at effect
  refine leads_admitUser _ id user room (fun shown queue clock admitted => ?_) ?_ ?_
  · have admits := admits_of_admitUser (p := ⟨id, user, room, queue⟩) enters admitted time
    generalize (w.server.answer r).server = t at effect clock
    cases effect with
    | admits notices => exact joining ⟨id, user, room, queue⟩ shown rfl admits clock
  · generalize (w.server.answer r).server = t at effect
    cases effect with
    | admits notices => exact founding
  · generalize (w.server.answer r).server = t at effect
    cases effect with
    | admits notices => exact entering

/-- A request broadcasts the closing of a room for a verified administrator or the coming of who is
admitted, and whatever else it does to rooms is part of an admission. -/
theorem leads_request {P : RoomId → Change → Prop} (w : World) (time : Nat) (id : ConnectionId)
    (r : Request)
    (closing : ∀ segment room user shown, r.method = "POST" → r.route? = some (.close segment) →
      roomOf? segment = some room → w.server.Verifies r user → user.role = .admin →
      w.server.clock = some shown →
      P room (.handled (.broadcast (.roomClosed user.userId room shown))))
    (joining : ∀ p shown, p.id = id → w.Admits time r p → w.server.clock = some shown →
      P p.room (.handled (.broadcast (.joined p.identity p.room shown))))
    (founding : ∀ user room, (w.server.answer r).entering = some (user, room) →
      canHold w.server.settings.intakeCapacity = true → P room .founded)
    (entering : ∀ user room, (w.server.answer r).entering = some (user, room) →
      canHold w.server.settings.config.queueCapacity = true →
      P room (.handled (.register id user w.server.settings.config.queueCapacity)))
    (events : ∀ user room, (w.server.answer r).entering = some (user, room) →
      ∀ e : Hub.Event, e.message? = none → e.entrant? = none → P room (.handled e)) :
    Leads P w.server (w.step time (.request id r)).server := by
  have answered : Leads P w.server (w.server.answer r).server :=
    (effect_answer w.server r).leads closing
  obtain ⟨-, step⟩ | ⟨user, room, enters, ⟨p, s, admitted, step⟩ | ⟨why, s, _, refused, step⟩⟩ :=
    w.step_request_cases time id r
  · rw [step]
    exact answered
  · have entered := answered.trans (leads_admission enters time id joining
      (founding user room enters) (entering user room enters))
    obtain ⟨-, -, rfl⟩ := participant_of_admitUser (congrArg Prod.fst admitted)
    rw [admitted] at entered
    rw [step]
    exact entered.trans (Connection.leads_release _ _ (events user p.room enters))
  · have entered := answered.trans (leads_admission enters time id joining
      (founding user room enters) (entering user room enters))
    rw [refused] at entered
    rw [step]
    exact entered.trans (leads_report _ _)

/-! ### Worlds that run by themselves -/

/-- Connections are told apart by their rooms and ids. -/
def Distinct (w : World) : Prop :=
  (w.connections.map fun c => (c.participant.room, c.participant.id)).Nodup

theorem place_eq (distinct : w.Distinct) {place : Nat} {c : Connection}
    (there : w.connections[place]? = some c) :
    w.place c.participant.room c.participant.id = place := by
  obtain ⟨bound, rfl⟩ := List.getElem?_eq_some_iff.1 there
  refine (List.findIdx_eq bound).2 ⟨by simp, fun earlier before => ?_⟩
  have apart := List.pairwise_iff_getElem.1 distinct earlier place (by simp; omega) (by simpa)
    before
  simpa using apart

/-- A turn of a connection is a step. -/
theorem act_eq_after (distinct : w.Distinct) (unfed : w.feed = []) (time place : Nat)
    (m : Connection.Move) :
    (w.act time place m.perform).Distinct ∧ (w.act time place m.perform).feed = [] ∧
      ∃ course, w.act time place m.perform = w.after course := by
  cases there : w.connections[place]? with
  | none =>
    have same : w.act time place m.perform = w := by simp only [act, there]
    rw [same]
    exact ⟨distinct, unfed, [], rfl⟩
  | some c =>
    have here := place_eq distinct there
    refine ⟨?_, by simpa only [act, there] using unfed,
      [(time, .move c.participant.room c.participant.id m)], ?_⟩
    · have named : (w.connections.map fun c => (c.participant.room, c.participant.id))[place]? =
          some (c.participant.room, c.participant.id) := by rw [List.getElem?_map, there]; rfl
      obtain ⟨bound, same⟩ := List.getElem?_eq_some_iff.1 named
      simp only [act, there, Distinct, List.map_set, Connection.participant_perform]
      rw [← same, List.set_getElem_self]
      exact distinct
    · simp only [after, List.foldl_cons, List.foldl_nil, step, here]

/-- A world that nobody feeds runs by steps. -/
theorem runTurns_eq_after (distinct : w.Distinct) (unfed : w.feed = []) (done : World → Bool)
    (horizon fuel : Nat) : ∃ course, w.runTurns done horizon fuel = w.after course := by
  induction fuel generalizing w with
  | zero => exact ⟨[], rfl⟩
  | succ fuel ih =>
    have turn : ∀ time t, (w.perform time t).Distinct ∧ (w.perform time t).feed = [] ∧
        ∃ course, w.perform time t = w.after course := by
      intro time t
      cases t with
      | read place => exact act_eq_after distinct unfed time place .read
      | feed =>
        have same : w.perform time .feed = w := by simp only [perform, broadcastNext, unfed]
        rw [same]
        exact ⟨distinct, unfed, [], rfl⟩
      | write place task => exact act_eq_after distinct unfed time place (.write task)
      | conclude place => exact act_eq_after distinct unfed time place .conclude
    unfold runTurns
    split_ifs
    · exact ⟨[], rfl⟩
    · split
      next time t _ =>
        split_ifs
        · obtain ⟨distinct', unfed', course, same⟩ := turn time t
          obtain ⟨more, later⟩ := ih distinct' unfed'
          refine ⟨course ++ more, ?_⟩
          rw [later, same]
          simp only [after, List.foldl_append]
        · exact ⟨[], rfl⟩
      · exact ⟨[], rfl⟩

end World
end RoomHub
