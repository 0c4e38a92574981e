import RoomHub.Proofs.Server.Coupling

/-!
# What a server has of one room

Two servers agree on a room (`Server.AgreeOn`) if they have the same hub and the same chat log for
it, the same settings and the same clocks.  What happens to other rooms leaves a server in agreement
with itself (`Leads.agreeOn`), and an operation on the room itself has the same result on servers
that agree and leaves them in agreement (`agreeOn_coupling`).
-/

namespace RoomHub
namespace ChatStore

/-- Two stores keep the same for a room. -/
inductive AgreeOn (room : RoomId) : ChatStore → ChatStore → Prop
  | log {a b : ChatLog} (capacity : a.capacity = b.capacity) (entries : a.list room = b.list room) :
      AgreeOn room (.log a) (.log b)
  | failing (reason : String) : AgreeOn room (.failing reason) (.failing reason)

variable {room : RoomId} {a b c : ChatStore} {m : Message}

theorem AgreeOn.refl (room : RoomId) (a : ChatStore) : AgreeOn room a a := by
  cases a with
  | log entries => exact .log rfl rfl
  | failing reason => exact .failing reason

theorem AgreeOn.symm (h : AgreeOn room a b) : AgreeOn room b a := by
  cases h with
  | log capacity entries => exact .log capacity.symm entries.symm
  | failing reason => exact .failing reason

theorem AgreeOn.trans (h : AgreeOn room a b) (k : AgreeOn room b c) : AgreeOn room a c := by
  cases h with
  | log capacity entries =>
    cases k with
    | log capacity' entries' => exact .log (capacity.trans capacity') (entries.trans entries')
  | failing reason => exact k

theorem AgreeOn.list_eq (h : AgreeOn room a b) : a.list room = b.list room := by
  cases h with
  | log capacity entries => simp only [list, entries]
  | failing reason => rfl

theorem list_replace (log : ChatLog) (other : RoomId) (entries : List ChatLogEntry)
    (room : RoomId) :
    (log.replace other entries).list room = if room = other then entries else log.list room := by
  simp only [ChatLog.list, ChatLog.replace, List.lookup_cons]
  split_ifs with same
  · simp [same]
  · rw [beq_false_of_ne same, Hub.lookup_filter_fst (fun r => decide (r ≠ other)) log.entries
      (by simpa using same)]

/-- Saving a message under another room changes nothing for a room. -/
theorem agreeOn_save {other : RoomId} (saved : a.save m other = .ok b) (elsewhere : other ≠ room) :
    AgreeOn room a b := by
  cases a with
  | failing reason => cases saved
  | log entries =>
    simp only [save, ChatLog.save] at saved
    split_ifs at saved
    · cases saved
      refine .log rfl ?_
      rw [list_replace, if_neg elsewhere.symm]
    · cases saved

/-- Stores that keep the same for a room do the same with a message for it. -/
theorem AgreeOn.save (h : AgreeOn room a b) (m : Message) :
    (∃ a' b', a.save m room = .ok a' ∧ b.save m room = .ok b' ∧ AgreeOn room a' b') ∨
      ∃ why, a.save m room = .error why ∧ b.save m room = .error why := by
  cases h with
  | failing reason => exact .inr ⟨_, rfl, rfl⟩
  | @log a b capacity entries =>
    simp only [ChatStore.save, ChatLog.save]
    split_ifs
    · refine .inl ⟨_, _, rfl, rfl, .log capacity ?_⟩
      simp only [list_replace, if_true, capacity, entries]
    · exact .inr ⟨_, rfl, rfl⟩

end ChatStore

namespace Server

/-- Two servers have the same hub and the same chat log for a room, the same settings and clocks. -/
structure AgreeOn (room : RoomId) (s t : Server) : Prop where
  settings : s.settings = t.settings
  clock : s.clock = t.clock
  now : s.now = t.now
  hub : s.hub? room = t.hub? room
  store : s.store.AgreeOn room t.store

variable {P : RoomId → Change → Prop} {s s' t u : Server} {room : RoomId}

theorem AgreeOn.refl (room : RoomId) (s : Server) : AgreeOn room s s :=
  ⟨rfl, rfl, rfl, rfl, .refl _ _⟩

theorem AgreeOn.symm (h : AgreeOn room s t) : AgreeOn room t s :=
  ⟨h.settings.symm, h.clock.symm, h.now.symm, h.hub.symm, h.store.symm⟩

theorem AgreeOn.trans (h : AgreeOn room s t) (k : AgreeOn room t u) : AgreeOn room s u :=
  ⟨h.settings.trans k.settings, h.clock.trans k.clock, h.now.trans k.now, h.hub.trans k.hub,
    h.store.trans k.store⟩

theorem Like.agreeOn (h : s'.Like s) (room : RoomId) : AgreeOn room s' s := by
  obtain ⟨settings, clock, now, store, -⟩ := h.fields
  exact ⟨settings, clock, now, h.hub? room, store ▸ .refl _ _⟩

/-- Nothing that happens to other rooms changes anything for a room. -/
theorem Leads.agreeOn (h : Leads P s s') (elsewhere : ∀ change, ¬ P room change) :
    AgreeOn room s s' := by
  induction h with
  | quiet same => exact (same.agreeOn room).symm
  | @found s s' other new allowed grown =>
    refine .trans ?_ (grown.agreeOn room).symm
    have distinct : other ≠ room := fun e => elsewhere _ (e ▸ allowed)
    refine ⟨rfl, rfl, rfl, ?_, .refl _ _⟩
    rw [hub?_append, if_neg (show (Hub.start other).room ≠ room from distinct), Option.or_none]
  | @handled s s' other hub e known allowed changed =>
    refine .trans ?_ (changed.agreeOn room).symm
    have distinct : other ≠ room := fun e => elsewhere _ (e ▸ allowed)
    refine ⟨rfl, rfl, rfl, ?_, .refl _ _⟩
    rw [hub?_putHub, (Hub.room_handle hub .inOrder e).1, room_of_hub? known, if_neg distinct]
  | @saved s s' store m other kept allowed changed =>
    refine .trans ?_ (changed.agreeOn room).symm
    have distinct : other ≠ room := fun e => elsewhere _ (e ▸ allowed)
    exact ⟨rfl, rfl, rfl, rfl, ChatStore.agreeOn_save kept distinct⟩
  | trans _ _ first second => exact first.trans second

/-! ### Operations on the room -/

theorem AgreeOn.report (h : AgreeOn room s t) (first second : List Notice) :
    AgreeOn room (s.report first) (t.report second) :=
  ⟨h.settings, h.clock, h.now, h.hub, h.store⟩

theorem AgreeOn.putHub (h : AgreeOn room s t) (hub : Hub) :
    AgreeOn room (s.putHub hub) (t.putHub hub) := by
  refine ⟨h.settings, h.clock, h.now, ?_, h.store⟩
  rw [hub?_putHub, hub?_putHub, h.hub]

theorem AgreeOn.persist (h : AgreeOn room s t) {m : Message} (here : m.roomId = room) :
    AgreeOn room (s.persist m) (t.persist m) := by
  unfold Server.persist
  rw [here]
  obtain ⟨a, b, hs, ht, agree⟩ | ⟨why, hs, ht⟩ := h.store.save m
  · rw [hs, ht]
    exact ⟨h.settings, h.clock, h.now, h.hub, agree⟩
  · rw [hs, ht]
    exact h.report _ _

/-- Servers that agree on a room go the same way in it. -/
theorem agreeOn_coupling (room : RoomId) : RoomCoupling room (AgreeOn room) where
  settings h := h.settings
  clock h := h.clock
  now h := h.now
  report notices h := h.report notices notices
  hub h := h.hub
  putHub hub h := h.putHub hub
  found h := ⟨h.settings, h.clock, h.now, by rw [hub?_append, hub?_append, h.hub], h.store⟩
  persist here h := h.persist here

theorem AgreeOn.chatLog_eq (h : AgreeOn room s t) : s.chatLog room = t.chatLog room :=
  h.store.list_eq

end Server
end RoomHub
