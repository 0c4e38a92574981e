import RoomHub.Proofs.Hub.Joining
import RoomHub.Proofs.Server.Keeping
import RoomHub.Proofs.Server.Obeying

/-!
# Messages that are spread

A server that spreads messages in a room hands each to the room's hub, in order, and the chat
messages among them to its store, and to nothing else (`Server.Spreads`).  A store that fails says so
for each message that it is handed (`ChatStore.refusals`).
-/

namespace RoomHub

/-- Whether a notice says that a chat message was not kept. -/
def Notice.isChatNotSaved (n : Notice) : Bool := n matches .chatNotSaved ..

namespace ChatStore

/-- What is reported when chat messages are handed to a store. -/
def refusals (store : ChatStore) (chats : List Message) : List Notice :=
  match store with
  | .log _ => []
  | .failing reason => chats.map fun m => .chatNotSaved m.senderId m.roomId (.storage reason)

theorem refusals_append (store : ChatStore) (chats more : List Message) :
    store.refusals (chats ++ more) = store.refusals chats ++ store.refusals more := by
  cases store with
  | log => rfl
  | failing reason => exact List.map_append

theorem refusals_keep (store : ChatStore) (m : Message) (chats : List Message) :
    (store.keep m).refusals chats = store.refusals chats := by
  cases store with
  | failing reason => rfl
  | log entries =>
    simp only [keep, save]
    cases entries.save m m.roomId <;> rfl

theorem refusals_foldl_keep (store : ChatStore) (said chats : List Message) :
    (said.foldl keep store).refusals chats = store.refusals chats := by
  induction said generalizing store with
  | nil => rfl
  | cons m said ih => exact (ih (store.keep m)).trans (refusals_keep store m chats)

end ChatStore

/-- What a hub reports about a broadcast is about outboxes. -/
theorem Hub.isChatNotSaved_of_broadcast (hub : Hub) (visit : Visit) (m : Message) :
    ∀ n ∈ (hub.broadcast visit m).2, n.isChatNotSaved = false := by
  intro n reported
  simp only [broadcast, List.mem_append, List.mem_flatMap, List.mem_singleton] at reported
  obtain ⟨⟨member, delivery⟩, -, removed⟩ | rfl := reported
  · cases delivery with
    | accepted => cases removed
    | _ =>
      obtain rfl := List.mem_singleton.mp removed
      rfl
  · rfl

namespace Server

variable {s t s' : Server} {room : RoomId} {hub : Hub} {said more : List Message} {m : Message}

/-- A server has spread messages in a room: they met its hub, and the chat messages among them, and
nothing else, were handed to the store. -/
structure Spreads (room : RoomId) (said : List Message) (s s' : Server) : Prop where
  hubs : Undergoes room (said.map .broadcast) s s'
  clock : s'.clock = s.clock
  store : s'.store = (said.filter (·.isChat)).foldl ChatStore.keep s.store
  unsaved : s'.journal.filter (·.isChatNotSaved) =
    s.journal.filter (·.isChatNotSaved) ++ s.store.refusals (said.filter (·.isChat))

theorem Spreads.hub? (spreads : Spreads room said s s') (known : s.hub? room = some hub)
    (running : hub.running = true) :
    s'.hub? room = some (hub.runInOrder (said.map .broadcast)) := by
  rw [spreads.hubs room, if_pos rfl, known, Option.map_some, Hub.foldl_obey_of_running running]

theorem Spreads.other (spreads : Spreads room said s s') {other : RoomId} (elsewhere : other ≠ room) :
    s'.hub? other = s.hub? other := by
  rw [spreads.hubs other, if_neg elsewhere]

theorem unsaved_report (s : Server) {notices : List Notice}
    (aside : ∀ n ∈ notices, n.isChatNotSaved = false) :
    (s.report notices).journal.filter (·.isChatNotSaved) =
      s.journal.filter (·.isChatNotSaved) := by
  have none : notices.filter (·.isChatNotSaved) = [] := by
    rw [List.filter_eq_nil_iff]
    intro n reported
    simp [aside n reported]
  rw [report, List.filter_append, none, List.append_nil]

theorem Spreads.report (s : Server) {notices : List Notice}
    (aside : ∀ n ∈ notices, n.isChatNotSaved = false) : Spreads room [] s (s.report notices) where
  hubs := .refl s
  clock := rfl
  store := rfl
  unsaved := by
    rw [unsaved_report s aside]
    cases s.store <;> simp [ChatStore.refusals]

theorem Spreads.refl (s : Server) : Spreads room [] s s := by
  have quiet : Spreads room [] s (s.report []) := .report s (by simp)
  rwa [Server.report, List.append_nil] at quiet

theorem Spreads.trans (first : Spreads room said s t) (second : Spreads room more t s') :
    Spreads room (said ++ more) s s' where
  hubs := List.map_append ▸ first.hubs.trans second.hubs
  clock := second.clock.trans first.clock
  store := by rw [second.store, first.store, List.filter_append, List.foldl_append]
  unsaved := by
    rw [second.unsaved, first.unsaved, first.store, ChatStore.refusals_foldl_keep, List.append_assoc,
      List.filter_append, ChatStore.refusals_append]

theorem clock_persist (s : Server) (m : Message) : (s.persist m).clock = s.clock := by
  unfold persist
  split <;> rfl

theorem journal_persist (s : Server) (chat : m.isChat = true) :
    (s.persist m).journal = s.journal ++ s.store.refusals [m] := by
  unfold persist
  cases store : s.store with
  | log entries => simp [ChatStore.save, ChatLog.save, chat, Except.map, ChatStore.refusals]
  | failing reason => rfl

/-- What a running hub is sent it is told, and nothing else happens. -/
theorem send_broadcast (known : s.hub? room = some hub) (running : hub.running = true)
    (m : Message) : ∃ t, s.send room (.broadcast m) = (.ok (), t) ∧
      Undergoes room [.broadcast m] s t ∧ t.clock = s.clock ∧ t.store = s.store ∧
      t.journal.filter (·.isChatNotSaved) = s.journal.filter (·.isChatNotSaved) := by
  have sent : s.send room (.broadcast m) =
      (.ok (), (s.putHub (hub.broadcast .inOrder m).1).report (hub.broadcast .inOrder m).2) := by
    simp only [send, known, running, if_true]
    rfl
  have hubs := undergoes_send (e := .broadcast m) s room rfl
  rw [sent] at hubs
  exact ⟨_, sent, hubs, rfl, rfl, unsaved_report _ (hub.isChatNotSaved_of_broadcast .inOrder m)⟩

/-- A message of a client that the relay takes is stamped and spread. -/
theorem relay_spreads (known : s.hub? room = some hub) (running : hub.running = true)
    {time : Calendar.Instant} (shown : s.clock = some time) (sender : Identity) {kind : MessageKind}
    (free : kind ≠ .roomClosed) (content : String) :
    ∃ t, s.relay room sender kind content = (.ok (.ofClient kind content sender room time), t) ∧
      Spreads room [.ofClient kind content sender room time] s t := by
  simp only [relay, if_neg free, shown]
  generalize Message.ofClient kind content sender room time = m
  cases chat : m.isChat with
  | false =>
    obtain ⟨t, sent, hubs, clock, store, unsaved⟩ := send_broadcast known running m
    have none : [m].filter (·.isChat) = [] := by simp [chat]
    refine ⟨t, by simp [sent], hubs, clock, by rw [none]; exact store, ?_⟩
    rw [none, unsaved]
    cases s.store <;> simp [ChatStore.refusals]
  | true =>
    have known' : (s.persist m).hub? room = some hub := by
      rwa [hub?, hubs_persist]
    obtain ⟨t, sent, hubs, clock, store, unsaved⟩ := send_broadcast known' running m
    have one : [m].filter (·.isChat) = [m] := by simp [chat]
    refine ⟨t, by simp [sent], ?_, clock.trans (s.clock_persist m), ?_, ?_⟩
    · exact (Undergoes.of_hubs (s.hubs_persist m)).trans hubs
    · rw [one, store, s.store_persist]
      rfl
    · have aside : ∀ n ∈ s.store.refusals [m], n.isChatNotSaved = true := by
        cases s.store <;> simp [ChatStore.refusals, Notice.isChatNotSaved]
      rw [one, unsaved, s.journal_persist chat, List.filter_append, List.filter_eq_self.mpr aside]

end Server
end RoomHub
