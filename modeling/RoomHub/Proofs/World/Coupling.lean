import RoomHub.Proofs.Connection.Coupling
import RoomHub.Proofs.Http.Coupling
import RoomHub.Proofs.World.Happening

/-!
# Worlds whose servers go the same way

Related servers stay related when an admission gets the hub of its room and when it announces its
user.  When somebody enters a room, in one go or enrolled at last, worlds with related servers go
`Together`.  Two worlds are `Coupled` if their servers are related and all else is the same.  They
stay so, then, and so they do after two requests with coupled outcomes (`Coupled.request`).
-/

namespace RoomHub

namespace Server.RoomCoupling

variable {R : Server → Server → Prop} {s t : Server} {room : RoomId} (K : RoomCoupling room R)
include K

theorem resolved (h : R s t) : R (s.resolved room) (t.resolved room) := by
  unfold Server.resolved
  obtain ⟨s', t', hs, ht, related⟩ | ⟨crash, hs, ht⟩ := K.resolve h
  · rw [hs, ht]
    exact related
  · rw [hs, ht]
    exact h

theorem announce (h : R s t) (user : Identity) :
    R (s.announce user room) (t.announce user room) := by
  unfold Server.announce
  rw [K.clock h, K.settings h]
  split
  · exact (K.send h _).2
  · exact h

end Server.RoomCoupling

namespace World

open Server Http

/-- Two worlds have related servers and are the same otherwise. -/
structure Coupled (R : Server → Server → Prop) (w v : World) : Prop where
  now : w.now = v.now
  server : R w.server v.server
  connections : w.connections = v.connections
  feed : w.feed = v.feed

variable {R : Server → Server → Prop} {w v : World} {room : RoomId}

/-- What becomes of two worlds in which somebody enters a room: both open the same connection there,
or neither does, and their servers are related. -/
inductive Together (R : Server → Server → Prop) (room : RoomId) (w v : World) : World → World → Prop
  | opens {s t : Server} {c : Connection} (own : c.participant.room = room) (related : R s t) :
      Together R room w v { w with server := s, connections := w.connections ++ [c] }
        { v with server := t, connections := v.connections ++ [c] }
  | fails {s t : Server} (related : R s t) :
      Together R room w v { w with server := s } { v with server := t }

theorem serve_together (K : RoomCoupling room R) {c d : Connection} {s t : Server} (same : c = d)
    (own : c.participant.room = room) (related : R s t) :
    Together R room w v ({ w with server := s }.serve c) ({ v with server := t }.serve d) := by
  subst same
  subst own
  exact .opens rfl (Connection.release_coupled K related)

theorem opened_eq (K : RoomCoupling room R) {s t : Server} (related : R s t) (now : w.now = v.now)
    (p : Participant) : opened p s w.now = opened p t v.now := by
  simp only [opened, K.settings related, now]

theorem enter_together (K : RoomCoupling room R) (h : R w.server v.server) (now : w.now = v.now)
    (id : ConnectionId) (user : Identity) :
    Together R room w v (w.enter id user room) (v.enter id user room) := by
  obtain ⟨result, s, t, hs, ht, related⟩ := (K.admitUser h id user).split
  unfold World.enter
  rw [hs, ht]
  cases result with
  | ok p =>
    have own := (participant_of_admitUser (congrArg Prod.fst hs)).2.2
    exact serve_together K (opened_eq K related now p) own related
  | error why =>
    cases why with
    | refused why => exact .fails (K.report _ related)
    | crashed crash => exact .fails related

theorem enroll_together (K : RoomCoupling room R) (h : R w.server v.server) (now : w.now = v.now)
    (id : ConnectionId) (user : Identity) :
    Together R room w v (w.enroll id user room) (v.enroll id user room) := by
  unfold World.enroll
  rw [K.settings h]
  obtain ⟨result, s, t, hs, ht, related⟩ :=
    (K.register h id user v.server.settings.config.queueCapacity).split
  rw [hs, ht]
  cases result with
  | ok queue =>
    exact serve_together K (opened_eq K related now _) rfl (K.report _ related)
  | error why =>
    cases why with
    | refused why => exact .fails (K.report _ related)
    | crashed crash => exact .fails related

theorem Coupled.together {w' v' : World} (h : Coupled R w v) (entered : Together R room w v w' v') :
    Coupled R w' v' := by
  cases entered with
  | opens own related => exact ⟨h.now, related, by rw [h.connections], h.feed⟩
  | fails related => exact ⟨h.now, related, h.connections, h.feed⟩

/-- Two requests with coupled outcomes lead to coupled worlds. -/
theorem Coupled.request (K : ∀ room, RoomCoupling room R) (h : Coupled R w v) {cares : Prop}
    {a b : Request} (answered : Outcome.Coupled R cares (w.server.answer a) (v.server.answer b))
    (time : Nat) (id : ConnectionId) :
    Coupled R (w.step time (.request id a)) (v.step time (.request id b)) := by
  have coupled : Coupled R { w with now := time, server := (w.server.answer a).server }
      { v with now := time, server := (v.server.answer b).server } :=
    ⟨rfl, answered.server, h.connections, h.feed⟩
  simp only [step, answer]
  rw [answered.entering]
  split
  next user room _ =>
    exact coupled.together (enter_together (K room) coupled.server coupled.now id user)
  · exact coupled

end World
end RoomHub
