import RoomHub.Proofs.Hub.Isolation
import RoomHub.Proofs.Server.Changes

/-!
# What hubs make of events

A hub that has stopped handles nothing that is sent to it, but its receivers still act on their
outboxes: `Hub.obey` is what becomes of a hub either way.  `Server.Undergoes` says that a server's
hubs change by nothing but a list of such events for the hub of one room; there is one lemma for
each operation by which others turn to a hub.
-/

namespace RoomHub
namespace Hub

/-- Whether an event is what a receiver does to its outbox, without asking the hub's loop. -/
def Event.isReceivers : Event → Bool
  | .take _ | .dropReceiver _ => true
  | _ => false

/-- What becomes of a hub with an event: a hub that has stopped handles nothing that is sent to
it. -/
def obey (hub : Hub) (e : Event) : Hub :=
  if e.isReceivers || hub.running then (hub.handle .inOrder e).1 else hub

variable {hub : Hub} {e : Event} {id : ConnectionId}

theorem room_obey (hub : Hub) (e : Event) :
    (hub.obey e).room = hub.room ∧ (hub.obey e).running = hub.running := by
  unfold obey
  split_ifs
  · exact room_handle hub .inOrder e
  · exact ⟨rfl, rfl⟩

/-- An event that is not about a connection leaves what the hub knows of it alone. -/
theorem only_obey_of_not_concerns (other : e.concerns id = false) :
    (hub.obey e).only id = hub.only id := by
  unfold obey
  split_ifs
  · exact only_handle_of_not_concerns hub .inOrder other
  · rfl

theorem Sound.obey (h : hub.Sound) (e : Event) : (hub.obey e).Sound := by
  unfold Hub.obey
  split_ifs
  · exact h.handle .inOrder e
  · exact h

theorem members_offerAll (m : Message) (members : List Member) (hub : Hub) :
    (offerAll m members hub).1.members = hub.members := by
  induction members generalizing hub with
  | nil => rfl
  | cons member members ih => exact ih (hub.offer m member).1

/-- Nobody becomes a member but by being registered. -/
theorem mem_members_obey {x : Member} (hx : x ∈ (hub.obey e).members) :
    x ∈ hub.members ∨ e.entrant? = some x.id := by
  unfold obey at hx
  split_ifs at hx
  · cases e with
    | register i user capacity =>
      rcases List.mem_append.1 hx with hx | hx
      · exact .inl (List.mem_filter.1 hx).1
      · rw [List.mem_singleton.1 hx]
        exact .inr rfl
    | broadcast m =>
      simp only [handle, broadcast, foldl_remove, members_offerAll] at hx
      exact .inl (List.mem_filter.1 hx).1
    | unregister i => exact .inl (List.mem_filter.1 hx).1
    | inspect => exact .inl hx
    | take q => exact .inl hx
    | dropReceiver q => exact .inl hx
  · exact .inl hx

/-- A hub that has stopped has given up its members. -/
def Stilled (hub : Hub) : Prop := hub.running = false → hub.members = []

theorem Stilled.obey (h : hub.Stilled) (e : Event) : (hub.obey e).Stilled := by
  intro stopped
  rw [(room_obey hub e).2] at stopped
  unfold Hub.obey
  split_ifs with heard
  · -- only a receiver is heard by a hub that has stopped
    cases e with
    | take q => exact h stopped
    | dropReceiver q => exact h stopped
    | _ => simp [Event.isReceivers, stopped] at heard
  · exact h stopped

/-- Who is unregistered is no member, whether or not the hub still runs. -/
theorem not_mem_obey_unregister (h : hub.Stilled) (id : ConnectionId) :
    id ∉ (hub.obey (.unregister id)).members.map (·.id) := by
  unfold obey
  split_ifs with running
  · simp [handle, remove]
  · rw [h (by simpa [Event.isReceivers] using running)]
    exact List.not_mem_nil

/-! ### Events one after the other -/

theorem only_foldl_obey {events : List Event}
    (others : ∀ e ∈ events, e.concerns id = false) (hub : Hub) :
    (events.foldl obey hub).only id = hub.only id := by
  induction events generalizing hub with
  | nil => rfl
  | cons e events ih =>
    rw [List.foldl_cons, ih fun e he => others e (List.mem_cons_of_mem _ he)]
    exact only_obey_of_not_concerns (others e List.mem_cons_self)

theorem Stilled.foldl_obey (stilled : hub.Stilled) (events : List Event) :
    (events.foldl Hub.obey hub).Stilled := by
  induction events generalizing hub with
  | nil => exact stilled
  | cons e events ih => exact ih (stilled.obey e)

theorem not_mem_foldl_obey {events : List Event}
    (others : ∀ e ∈ events, e.entrant? ≠ some id) (absent : id ∉ hub.members.map (·.id)) :
    id ∉ (events.foldl obey hub).members.map (·.id) := by
  induction events generalizing hub with
  | nil => exact absent
  | cons e events ih =>
    refine ih (fun e he => others e (List.mem_cons_of_mem _ he)) fun member => ?_
    obtain ⟨y, hy, rfl⟩ := List.mem_map.1 member
    rcases mem_members_obey hy with old | entered
    · exact absent (List.mem_map_of_mem old)
    · exact others e List.mem_cons_self entered

theorem foldl_obey_of_running (running : hub.running = true) (events : List Event) :
    events.foldl obey hub = hub.runInOrder events := by
  induction events generalizing hub with
  | nil => rfl
  | cons e events ih =>
    have first : hub.obey e = (hub.handle .inOrder e).1 := by simp [obey, running]
    have still := (room_handle hub .inOrder e).2.trans running
    rw [List.foldl_cons, first, ih still]
    rfl

theorem foldl_obey_keeps_running (hub : Hub) (events : List Event) :
    (events.foldl obey hub).running = hub.running := by
  induction events generalizing hub with
  | nil => rfl
  | cons e events ih => exact (ih (hub.obey e)).trans (room_obey hub e).2

end Hub

namespace Server

variable {s t s' : Server} {room : RoomId} {events more : List Hub.Event}

/-- Nothing happens to the hubs of a server but that the hub of one room meets with some events. -/
def Undergoes (room : RoomId) (events : List Hub.Event) (s s' : Server) : Prop :=
  ∀ r, s'.hub? r =
    if r = room then (s.hub? r).map fun hub => events.foldl Hub.obey hub else s.hub? r

theorem Undergoes.of_hubs (same : s'.hubs = s.hubs) : Undergoes room [] s s' := by
  intro r
  simp [hub?, same]

theorem Undergoes.refl (s : Server) : Undergoes room [] s s := .of_hubs rfl

theorem Undergoes.trans (first : Undergoes room events s t) (second : Undergoes room more t s') :
    Undergoes room (events ++ more) s s' := by
  intro r
  rw [second r, first r]
  split_ifs
  · simp only [Option.map_map, List.foldl_append]
    rfl
  · rfl

theorem Undergoes.report (h : Undergoes room events s t) (notices : List Notice) :
    Undergoes room events s (t.report notices) := h

theorem undergoes_putHub {hub : Hub} {e : Hub.Event} (known : s.hub? room = some hub)
    (obeys : hub.obey e = (hub.handle .inOrder e).1) :
    Undergoes room [e] s (s.putHub (hub.handle .inOrder e).1) := by
  intro r
  rw [hub?_putHub, (Hub.room_handle hub .inOrder e).1, room_of_hub? known]
  by_cases own : room = r
  · subst own
    simp [known, obeys]
  · simp [own, Ne.symm own]

theorem undergoes_self {e : Hub.Event}
    (still : ∀ hub, s.hub? room = some hub → hub.obey e = hub) : Undergoes room [e] s s := by
  intro r
  split_ifs with own
  · subst own
    cases known : s.hub? r with
    | none => rfl
    | some hub => simp [still hub known]
  · rfl

theorem undergoes_send {e : Hub.Event} (s : Server) (room : RoomId) (sent : e.isReceivers = false) :
    Undergoes room [e] s (s.send room e).2 := by
  unfold send
  split
  next absent => exact undergoes_self fun hub known => by cases absent.symm.trans known
  next hub known =>
    split_ifs with running
    · exact (undergoes_putHub known (by simp [Hub.obey, running])).report _
    · refine undergoes_self fun stopped known' => ?_
      cases known.symm.trans known'
      simp [Hub.obey, sent, running]

theorem undergoes_receive {e : Hub.Event} (s : Server) (room : RoomId)
    (receivers : e.isReceivers = true) : Undergoes room [e] s (s.receive room e) := by
  unfold receive
  split
  next absent => exact undergoes_self fun hub known => by cases absent.symm.trans known
  next hub known => exact undergoes_putHub known (by simp [Hub.obey, receivers])

theorem hubs_persist (s : Server) (m : Message) : (s.persist m).hubs = s.hubs := by
  unfold persist
  split <;> rfl

/-- A client's message meets the hub if it is relayed, and nothing else does. -/
theorem undergoes_relay (s : Server) (room : RoomId) (sender : Identity) (kind : MessageKind)
    (content : String) :
    Undergoes room ((s.relay room sender kind content).1.toOption.toList.map .broadcast) s
      (s.relay room sender kind content).2 := by
  unfold relay
  split_ifs
  · exact .refl s
  · split
    · exact .refl s
    next time shown =>
      dsimp only
      generalize Message.ofClient kind content sender room time = m
      have kept : Undergoes room [] s (if m.isChat then s.persist m else s) := by
        split_ifs
        · exact .of_hubs (hubs_persist s m)
        · exact .refl s
      generalize (if m.isChat then s.persist m else s) = t at kept
      obtain refused | ⟨hub, notices, known, running, done⟩ := send_cases t room (.broadcast m)
      · rw [refused]
        exact kept
      · have sent := undergoes_send t room (e := .broadcast m) rfl
        rw [done] at sent ⊢
        exact kept.trans sent

end Server
end RoomHub
