import RoomHub.Proofs.ChatLog

/-!
# What a chat log keeps

A bounded chat log that is asked to save one chat message after the other has, for each room, the
last of those that were said in it (`list_foldl_keep`).  Of all that happens to a server, only the
saving of messages changes its store (`Leads.store_eq`).
-/

namespace RoomHub

/-- A store that was asked to save a message under its room. -/
def ChatStore.keep (store : ChatStore) (m : Message) : ChatStore :=
  match store.save m m.roomId with
  | .ok kept => kept
  | .error _ => store

namespace ChatStore

/-- A log keeps messages by saving each under its own room. -/
theorem foldl_keep_log (said : List Message) (log : ChatLog) :
    said.foldl keep (.log log) = .log (log.after (said.map fun m => .save m m.roomId)) := by
  induction said generalizing log with
  | nil => rfl
  | cons m said ih =>
    have kept : keep (.log log) m = .log (log.answer (.save m m.roomId)).2 := by
      simp only [keep, save, ChatLog.answer]
      cases log.save m m.roomId <;> rfl
    rw [List.foldl_cons, kept, ih]
    rfl

/-- What a bounded log has of a room after a list of chat messages: the last of those that were said
in it, in the same order, each with its sender, its content and its time. -/
theorem list_foldl_keep (capacity : Nat) {said : List Message}
    (chats : ∀ m ∈ said, m.kind = .chat) (room : RoomId) :
    (said.foldl keep (.log (.withCapacity capacity))).list room =
      .ok (((said.filter (·.roomId = room)).map fun m =>
        { roomId := room, senderId := m.senderId, senderName := m.senderName
          content := m.content, timestamp := m.timestamp }).rtake (max capacity 1)) := by
  have saved : ChatLog.savedUnder room (said.map fun m => .save m m.roomId) =
      (said.filter (·.roomId = room)).map fun m =>
        { roomId := room, senderId := m.senderId, senderName := m.senderName
          content := m.content, timestamp := m.timestamp } := by
    induction said with
    | nil => rfl
    | cons m said ih =>
      have chat := chats m List.mem_cons_self
      have rest := ih fun x hx => chats x (List.mem_cons_of_mem m hx)
      simp only [ChatLog.savedUnder, List.map_cons, List.filterMap_cons, ChatLog.Call.added?, chat,
        true_and] at rest ⊢
      by_cases here : m.roomId = room <;> simp [here, rest]
  rw [foldl_keep_log, list, (ChatLog.shows_after capacity _).lists, saved]

end ChatStore

namespace Server

variable {P : RoomId → Change → Prop} {s s' : Server}

theorem store_persist (s : Server) (m : Message) : (s.persist m).store = s.store.keep m := by
  unfold persist ChatStore.keep
  cases s.store.save m m.roomId with
  | ok kept => rfl
  | error why => rfl

/-- Nothing but the saving of a message changes a store. -/
theorem Leads.store_eq (h : Leads P s s') (unsaved : ∀ room m, ¬ P room (.saved m)) :
    s'.store = s.store := by
  induction h with
  | quiet same => exact same.fields.2.2.2.1
  | found _ _ grown => exact grown.fields.2.2.2.1
  | handled _ _ changed => exact changed.fields.2.2.2.1
  | saved _ allowed _ => exact absurd allowed (unsaved _ _)
  | trans _ _ first second => exact second.trans first

end Server
end RoomHub
