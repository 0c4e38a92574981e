import RoomHub.Proofs.Server.Changes

/-!
# Servers that go the same way

A `Coupling` is a relation between servers that have the same settings and clocks, and a
`RoomCoupling` one between servers that have the same hub for a room, too; both are kept by the few
changes that operations are made of.  Every operation then has the same result on related servers
and leaves them related (`Coupled`), whatever else the relation says of them.
-/

namespace RoomHub
namespace Server

/-- Two results are the same, with servers that are related. -/
def Coupled {α : Type} (R : Server → Server → Prop) (x y : α × Server) : Prop :=
  x.1 = y.1 ∧ R x.2 y.2

/-- Related servers have the same settings and clocks, and may report the same. -/
structure Coupling (R : Server → Server → Prop) : Prop where
  settings {s t : Server} : R s t → s.settings = t.settings
  clock {s t : Server} : R s t → s.clock = t.clock
  now {s t : Server} : R s t → s.now = t.now
  report {s t : Server} (notices : List Notice) : R s t → R (s.report notices) (t.report notices)

/-- Related servers have the same hub for a room, and may do the same to it and to its chat log. -/
structure RoomCoupling (room : RoomId) (R : Server → Server → Prop) : Prop extends Coupling R where
  hub {s t : Server} : R s t → s.hub? room = t.hub? room
  putHub {s t : Server} (hub : Hub) : R s t → R (s.putHub hub) (t.putHub hub)
  found {s t : Server} : R s t →
    R { s with hubs := s.hubs ++ [Hub.start room] } { t with hubs := t.hubs ++ [Hub.start room] }
  persist {s t : Server} {m : Message} : m.roomId = room → R s t → R (s.persist m) (t.persist m)

variable {R : Server → Server → Prop} {s t : Server} {room : RoomId}

theorem Coupled.split {α : Type} {x y : α × Server} (h : Coupled R x y) :
    ∃ a s t, x = (a, s) ∧ y = (a, t) ∧ R s t := by
  obtain ⟨a, s⟩ := x
  obtain ⟨b, t⟩ := y
  obtain ⟨rfl, related⟩ := h
  exact ⟨a, s, t, rfl, rfl, related⟩

namespace Coupling

variable (K : Coupling R)
include K

theorem verify (h : R s t) (token : String) : Coupled R (s.verify token) (t.verify token) := by
  unfold Server.verify
  rw [K.settings h, K.now h]
  split
  · exact ⟨rfl, K.report _ h⟩
  · exact ⟨rfl, h⟩

theorem authenticate (h : R s t) (known : Option Identity) (token : Option String) :
    Coupled R (s.authenticate known token) (t.authenticate known token) := by
  unfold Server.authenticate
  cases known with
  | some identity => exact ⟨rfl, h⟩
  | none =>
    cases presentedToken token with
    | error why => exact ⟨rfl, h⟩
    | ok token =>
      obtain ⟨result, s', t', hs, ht, related⟩ := (K.verify h token).split
      dsimp only
      rw [hs, ht]
      exact ⟨rfl, related⟩

end Coupling

namespace RoomCoupling

variable (K : RoomCoupling room R)
include K

theorem send (h : R s t) (e : Hub.Event) : Coupled R (s.send room e) (t.send room e) := by
  unfold Server.send
  rw [K.hub h]
  cases t.hub? room with
  | none => exact ⟨rfl, h⟩
  | some hub =>
    dsimp only
    split_ifs
    · exact ⟨rfl, K.report _ (K.putHub _ h)⟩
    · exact ⟨rfl, h⟩

theorem receive (h : R s t) (e : Hub.Event) : R (s.receive room e) (t.receive room e) := by
  unfold Server.receive
  rw [K.hub h]
  cases t.hub? room with
  | none => exact h
  | some hub => exact K.putHub _ h

theorem supply_eq (h : R s t) (queue : QueueId) : s.supply room queue = t.supply room queue := by
  simp only [supply, K.hub h]

theorem unregister (h : R s t) (linked : Bool) (id : ConnectionId) :
    R (s.unregister linked room id) (t.unregister linked room id) := by
  unfold Server.unregister
  split_ifs
  · obtain ⟨result, s', t', hs, ht, related⟩ := (K.send h (.unregister id)).split
    rw [hs, ht]
    cases result with
    | ok done => exact related
    | error why => exact K.report _ related
  · exact h

theorem resolve (h : R s t) :
    (∃ s' t', s.resolve room = .ok s' ∧ t.resolve room = .ok t' ∧ R s' t') ∨
      ∃ crash, s.resolve room = .error crash ∧ t.resolve room = .error crash := by
  have intake : s.settings.intakeCapacity = t.settings.intakeCapacity := by rw [K.settings h]
  unfold Server.resolve
  rw [K.hub h, intake]
  cases known : t.hub? room with
  | some hub => exact .inl ⟨s, t, rfl, rfl, h⟩
  | none =>
    dsimp only
    split_ifs
    · exact .inl ⟨_, _, rfl, rfl, K.report _ (K.found h)⟩
    · exact .inr ⟨_, rfl, rfl⟩

theorem register (h : R s t) (id : ConnectionId) (user : Identity) (capacity : Nat) :
    Coupled R (s.register room id user capacity) (t.register room id user capacity) := by
  unfold Server.register
  rw [K.hub h]
  split_ifs
  · cases t.hub? room with
    | none => exact ⟨rfl, h⟩
    | some hub =>
      obtain ⟨result, s', t', hs, ht, related⟩ := (K.send h (.register id user capacity)).split
      dsimp only
      rw [hs, ht]
      cases result with
      | ok done => exact ⟨rfl, related⟩
      | error why => exact ⟨rfl, related⟩
  · exact ⟨rfl, h⟩

theorem admitUser (h : R s t) (id : ConnectionId) (user : Identity) :
    Coupled R (s.admitUser id user room) (t.admitUser id user room) := by
  unfold Server.admitUser
  obtain ⟨s', t', hs, ht, resolved⟩ | ⟨crash, hs, ht⟩ := K.resolve h
  · rw [hs, ht]
    dsimp only
    rw [K.clock resolved, K.settings resolved]
    split
    next time _ _ =>
      obtain ⟨told, s', t', hs, ht, related⟩ :=
        (K.send resolved (.broadcast (.joined user room time))).split
      rw [hs, ht]
      cases told with
      | error why => exact ⟨rfl, related⟩
      | ok done =>
        dsimp only
        rw [K.settings related]
        obtain ⟨entered, s', t', hs, ht, related⟩ :=
          (K.register related id user t'.settings.config.queueCapacity).split
        rw [hs, ht]
        cases entered with
        | ok queue => exact ⟨rfl, K.report _ related⟩
        | error why => cases why <;> exact ⟨rfl, related⟩
    · exact ⟨rfl, resolved⟩
  · rw [hs, ht]
    exact ⟨rfl, h⟩

theorem relay (h : R s t) (sender : Identity) (kind : MessageKind) (content : String) :
    Coupled R (s.relay room sender kind content) (t.relay room sender kind content) := by
  unfold Server.relay
  rw [K.clock h]
  split_ifs
  · exact ⟨rfl, h⟩
  · cases t.clock with
    | none => exact ⟨rfl, h⟩
    | some time =>
      dsimp only
      have here : (Message.ofClient kind content sender room time).roomId = room := rfl
      generalize Message.ofClient kind content sender room time = m at here
      have kept :
          R (if m.isChat then s.persist m else s) (if m.isChat then t.persist m else t) := by
        split_ifs
        · exact K.persist here h
        · exact h
      obtain ⟨result, s', t', hs, ht, related⟩ := (K.send kept (.broadcast m)).split
      rw [hs, ht]
      cases result with
      | ok done => exact ⟨rfl, related⟩
      | error why => exact ⟨rfl, related⟩

theorem closeRoom (h : R s t) (user : Identity) :
    Coupled R (s.closeRoom user room) (t.closeRoom user room) := by
  unfold Server.closeRoom
  rw [K.hub h, K.clock h]
  split_ifs
  · exact ⟨rfl, h⟩
  · split
    · exact ⟨rfl, K.report _ h⟩
    · exact ⟨rfl, h⟩
    next time _ _ =>
      obtain ⟨result, s', t', hs, ht, related⟩ :=
        (K.send h (.broadcast (.roomClosed user.userId room time))).split
      rw [hs, ht]
      cases result with
      | ok done => exact ⟨rfl, K.report _ related⟩
      | error why => exact ⟨rfl, related⟩

end RoomCoupling

/-! ### Servers with other journals -/

theorem like_iff : s.Like t ↔ s.settings = t.settings ∧ s.clock = t.clock ∧ s.now = t.now ∧
    s.store = t.store ∧ s.hubs = t.hubs := by
  refine ⟨Like.fields, ?_⟩
  rintro ⟨settings, clock, now, store, hubs⟩
  unfold Like
  rw [settings, clock, now, store, hubs]

theorem Like.symm (h : s.Like t) : t.Like s := by
  obtain ⟨settings, clock, now, store, hubs⟩ := h.fields
  exact like_iff.2 ⟨settings.symm, clock.symm, now.symm, store.symm, hubs.symm⟩

theorem Like.trans {u : Server} (h : s.Like t) (k : t.Like u) : s.Like u := by
  unfold Like at h k ⊢
  rw [← k, ← h]

theorem Like.report (h : s.Like t) (first second : List Notice) :
    (s.report first).Like (t.report second) := like_iff.2 h.fields

theorem Like.persist (h : s.Like t) (m : Message) : (s.persist m).Like (t.persist m) := by
  obtain ⟨settings, clock, now, store, hubs⟩ := h.fields
  unfold Server.persist
  rw [store]
  split
  · exact like_iff.2 ⟨settings, clock, now, rfl, hubs⟩
  · exact h.report _ _

/-- What was reported makes no difference in any room. -/
theorem like_roomCoupling (room : RoomId) : RoomCoupling room Like where
  settings h := h.fields.1
  clock h := h.fields.2.1
  now h := h.fields.2.2.1
  report notices h := h.report notices notices
  hub h := h.hub? room
  putHub hub h := by
    obtain ⟨settings, clock, now, store, hubs⟩ := h.fields
    exact like_iff.2 ⟨settings, clock, now, store, by simp only [Server.putHub, hubs]⟩
  found h := by
    obtain ⟨settings, clock, now, store, hubs⟩ := h.fields
    exact like_iff.2 ⟨settings, clock, now, store, by simp only [hubs]⟩
  persist _ h := h.persist _

end Server
end RoomHub
