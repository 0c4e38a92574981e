import Mathlib.Data.List.Induction
import RoomHub.Proofs.World.Happening
import RoomHub.Proofs.World.Provenance

/-!
# Refused requests leave no trace

A request that is refused leaves a world `Untouched`: its hubs with their members and outboxes, its
chat logs and its connections are what they were, and nobody is about to enter a room.  This holds
of requests by themselves, of requests that come over a connection and of heads that are no requests
(`Traceless`).  What refused requests cannot do, only others have done: each closing notice in an
outbox goes back to a verified administrator (`closing_of_mem_accepted`).
-/

namespace RoomHub

open Http

namespace World

open Server

/-- What a request could change is the same in a world as in an earlier one. -/
structure Untouched (w later : World) : Prop where
  /-- The rooms that have a hub, the members of each and what was put into each outbox and taken
  from it. -/
  hubs : later.server.hubs = w.server.hubs
  /-- The chat logs of all rooms. -/
  store : later.server.store = w.server.store
  connections : later.connections = w.connections

variable {w start : World} {time : Nat} {id : ConnectionId} {r : Request} {response : Response}
  {room : RoomId} {history : List (Nat × Happening)}

theorem untouched_report (w : World) (time : Nat) (notices : List Notice) :
    Untouched w { w with now := time, server := w.server.report notices } :=
  ⟨rfl, rfl, rfl⟩

theorem answer_of_refuses (given : (w.server.answer r).response = .ok response)
    (refuses : response.Refuses) (id : ConnectionId) : Untouched w (w.answer id r).2 := by
  obtain ⟨nobody, notices, same⟩ := answer_spares w.server r response given refuses
  simp only [answer, nobody, same]
  exact untouched_report w w.now notices

/-- Whether the connection ends with an answer does not matter for its status. -/
theorem status_closing (response : Response) : response.closing.status = response.status := by
  unfold Response.closing
  split <;> rfl

/-- A head that is refused is no request, or it is a request that is refused. -/
theorem answerOnWire_of_refuses {head : List Char}
    (given : (w.answerOnWire id head).1 = .ok response) (refuses : response.Refuses) :
    Untouched w (w.answerOnWire id head).2 := by
  unfold answerOnWire at given ⊢
  cases parsed : Request.ofHead head with
  | error fault => exact ⟨rfl, rfl, rfl⟩
  | ok r =>
    rw [parsed] at given
    dsimp only at given ⊢
    rw [answer_fst] at given
    cases answered : (w.server.answer r).response with
    | error crash => rw [answered] at given; cases given
    | ok first =>
      rw [answered] at given
      refine answer_of_refuses answered ?_ id
      cases given
      unfold Response.Refuses at refuses ⊢
      split_ifs at refuses
      · exact refuses
      · rwa [status_closing] at refuses

/-- A refused request, with whatever would have to follow its answer, changes nothing. -/
theorem happen_of_refuses {x : Happening} (asked : x.request? = some r)
    (given : (w.server.answer r).response = .ok response) (refuses : response.Refuses)
    (time : Nat) : Untouched w (w.happen time x) := by
  obtain ⟨nobody, notices, same⟩ := answer_spares w.server r response given refuses
  obtain ⟨id, rfl⟩ | rfl := Happening.cases_of_request? asked
  · simp only [happen, step_request_of_none nobody, same]
    exact untouched_report w time notices
  · simp only [happen, same]
    exact untouched_report w time notices

/-! ### Closing notices -/

theorem sound_through {s : Server} (fresh : s.hubs = []) (history : List (Nat × Happening)) :
    ((ofServer s).through history).server.Sound := by
  have start : s.Sound := fun hub there => by simp [fresh] at there
  exact through_of_happen (P := fun w => w.server.Sound)
    (fun _ time x sound => sound_happen sound time x) start history

/-- A happening is the request of a verified administrator to close a room. -/
def Happening.Closes (w : World) (x : Happening) (room : RoomId) (user : Identity) : Prop :=
  ∃ r segment, x.request? = some r ∧ r.method = "POST" ∧ r.route? = some (.close segment) ∧
    roomOf? segment = some room ∧ w.server.Verifies r user ∧ user.role = .admin

/-- Only a happening that closes a room puts closing notices into its outboxes. -/
theorem closing_of_placed (sound : w.server.Sound) (time : Nat) (x : Happening) (room : RoomId)
    (queue : QueueId) :
    ∃ placed : List Message, (w.happen time x).server.accepted room queue =
        w.server.accepted room queue ++ placed ∧
      ∀ m ∈ placed, m.kind = .roomClosed → ∃ user shown, x.Closes w room user ∧
        m = .roomClosed user.userId room shown := by
  obtain ⟨placed, grown, caused⟩ := accepted_happen sound time x room queue
  refine ⟨placed, grown, fun m new closed => ?_⟩
  cases caused m new with
  | @closing _ r segment user _ shown asked posted route named verified admin _ =>
    exact ⟨user, shown, ⟨r, segment, asked, posted, route, named, verified, admin⟩, rfl⟩
  | client _ _ _ _ free => exact absurd closed free
  | joining | announced => cases closed
  | other _ quiet => cases quiet

/-- A closing notice that was put into an outbox goes back to a verified administrator. -/
theorem closing_of_mem_accepted {s : Server} (fresh : s.hubs = []) {queue : QueueId} {m : Message}
    (there : m ∈ ((ofServer s).through history).server.accepted room queue)
    (closed : m.kind = .roomClosed) :
    ∃ before time x user shown, before ++ [(time, x)] <+: history ∧
      x.Closes ((ofServer s).through before) room user ∧
      m = .roomClosed user.userId room shown := by
  induction history using List.reverseRecOn with
  | nil => simp [through, ofServer, Server.accepted, Server.hub?, fresh] at there
  | append_singleton history x ih =>
    obtain ⟨placed, grown, sources⟩ :=
      closing_of_placed (sound_through fresh history) x.1 x.2 room queue
    rw [through_concat, grown] at there
    rcases List.mem_append.1 there with old | new
    · obtain ⟨before, time, y, user, shown, within, closes, same⟩ := ih old
      exact ⟨before, time, y, user, shown, within.trans (List.prefix_append _ _), closes, same⟩
    · obtain ⟨user, shown, closes, same⟩ := sources m new closed
      exact ⟨history, x.1, x.2, user, shown, List.prefix_refl _, closes, same⟩

/-- What refused requests do to a server after a history, and who has closed its rooms. -/
structure Traceless (start : World) (history : List (Nat × Happening)) : Prop where
  /-- A request that is refused, whatever it is for and whoever sends it, changes nothing. -/
  requests : ∀ id r response, ((start.through history).answer id r).1 = .ok response →
    response.Refuses →
    Untouched (start.through history) ((start.through history).answer id r).2
  /-- Neither does what comes over a connection and is refused, be it a request or not. -/
  heads : ∀ id head response, ((start.through history).answerOnWire id head).1 = .ok response →
    response.Refuses →
    Untouched (start.through history) ((start.through history).answerOnWire id head).2
  /-- A refused request lets nobody enter, so it founds no hub, makes nobody a member and announces
  nobody. -/
  enters : ∀ r response, ((start.through history).server.answer r).response = .ok response →
    response.Refuses → ((start.through history).server.answer r).entering = none
  happens : ∀ time x r response, x.request? = some r →
    ((start.through history).server.answer r).response = .ok response → response.Refuses →
    (∀ room, ¬ x.Reaches (start.through history) room) ∧
      Untouched (start.through history) (start.through (history ++ [(time, x)]))
  /-- Whatever a hub has put into an outbox, a closing notice is there because a verified
  administrator has closed the room. -/
  closings : ∀ room queue, ∀ m ∈ (start.through history).server.accepted room queue,
    m.kind = .roomClosed → ∃ before time x user shown, before ++ [(time, x)] <+: history ∧
      x.Closes (start.through before) room user ∧ m = .roomClosed user.userId room shown

/-- Whatever has happened to a server, a request that it refuses leaves no trace. -/
theorem refused_leaves_no_trace {settings : Settings} {store : ChatStore}
    {clock : Option Calendar.Instant} {now : Nat} {s : Server}
    (started : Server.start settings store clock now = .ok s) (history : List (Nat × Happening)) :
    Traceless (ofServer s) history where
  requests id r response given refuses := by
    rw [answer_fst] at given
    exact answer_of_refuses given refuses id
  heads id head response given refuses := answerOnWire_of_refuses given refuses
  enters r response given refuses := (answer_spares _ r response given refuses).1
  happens time x r response asked given refuses := by
    rw [through_concat]
    exact ⟨not_reaches_of_refuses asked given refuses, happen_of_refuses asked given refuses time⟩
  closings room queue m there closed :=
    closing_of_mem_accepted (Server.hubs_start started) there closed

/-- A request of nobody in particular to close the studio. -/
def closeRequest : Request := .ofParts "POST" "/api/rooms/studio/close" []

/-- Somebody who is not known wants to close the studio while Ann is in it. -/
theorem refused_leaves_no_trace_unknown :
    Server.start Sample.settings (.log (.withCapacity 1)) none 0 = .ok Sample.server ∧
      ∃ response,
        (((ofServer Sample.server).through annEnters).answer Sample.rootId closeRequest).1 =
          .ok response ∧
        response.status = 401 ∧
        Untouched ((ofServer Sample.server).through annEnters)
          (((ofServer Sample.server).through annEnters).answer Sample.rootId closeRequest).2 := by
  have started : Server.start Sample.settings (.log (.withCapacity 1)) none 0 = .ok Sample.server :=
    rfl
  refine ⟨started, _, rfl, rfl, ?_⟩
  exact (refused_leaves_no_trace started annEnters).requests _ _ _ rfl (by decide)

end World
end RoomHub
