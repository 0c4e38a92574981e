import Mathlib.Data.List.DropRight
import RoomHub.Proofs.Server.OneRoom

/-!
# A bounded log shows the end of an unbounded one

A chat log is asked to save messages and to list rooms, in any order (`Call`).  Without a bound it
would have, for each room, all chat messages that were saved under it (`savedUnder`); with one it has
the last of these (`Shows`).  One call keeps this (`Shows.answer`), so every sequence of calls does
(`shows_after`), and `bounded_log_law` says what is answered to any call after any others.
-/

namespace RoomHub
namespace ChatLog

/-- What a chat log is asked to do. -/
inductive Call where
  | save (m : Message) (room : RoomId)
  | list (room : RoomId)

/-- What a chat log answers. -/
inductive Reply where
  | saved
  | refused (why : ChatLogError)
  | listed (entries : List ChatLogEntry)

/-- Answers a call.  A log that refuses to save a message stays as it is. -/
def answer (log : ChatLog) : Call → Reply × ChatLog
  | .save m room =>
    match log.save m room with
    | .ok kept => (.saved, kept)
    | .error why => (.refused why, log)
  | .list room => (.listed (log.list room), log)

/-- The log after a sequence of calls. -/
def after (log : ChatLog) (calls : List Call) : ChatLog :=
  calls.foldl (fun log c => (log.answer c).2) log

/-- The entry that a call adds to a room: a chat message with its sender, its content and its time,
under the room that it is saved for. -/
def Call.added? (room : RoomId) : Call → Option ChatLogEntry
  | .save m target =>
    if m.kind = .chat ∧ target = room then
      some
        { roomId := room, senderId := m.senderId, senderName := m.senderName
          content := m.content, timestamp := m.timestamp }
    else none
  | .list _ => none

/-- All entries that calls have added to a room, oldest first. -/
def savedUnder (room : RoomId) (calls : List Call) : List ChatLogEntry :=
  calls.filterMap (·.added? room)

/-- A log has, for each room, the last `n` of the entries that calls have added to it. -/
structure Shows (n : Nat) (calls : List Call) (log : ChatLog) : Prop where
  capacity : log.capacity = n
  lists : ∀ room, log.list room = (savedUnder room calls).rtake n

variable {n : Nat} {calls : List Call} {log : ChatLog} {m : Message} {room : RoomId}

theorem after_concat (log : ChatLog) (calls : List Call) (c : Call) :
    log.after (calls ++ [c]) = ((log.after calls).answer c).2 := by
  simp [after]

theorem savedUnder_concat (room : RoomId) (calls : List Call) (c : Call) :
    savedUnder room (calls ++ [c]) = savedUnder room calls ++ (c.added? room).toList := by
  unfold savedUnder
  rw [List.filterMap_append]
  cases added : c.added? room <;> simp [added]

/-- A chat message is saved: the log of its target gets the entry that the message adds to it. -/
theorem answer_save_of_chat (log : ChatLog) (chat : m.kind = .chat) (room : RoomId) :
    ∃ e, (Call.save m room).added? room = some e ∧ log.answer (.save m room) =
      (.saved, log.replace room (push log.capacity (log.list room) e)) := by
  refine ⟨.ofMessage m room, by simp [Call.added?, chat, ChatLogEntry.ofMessage], ?_⟩
  simp only [answer, save, Message.isChat, chat, decide_true, if_true]

/-- Any other message is refused. -/
theorem answer_save_of_not_chat (log : ChatLog) (other : m.kind ≠ .chat) (room : RoomId) :
    log.answer (.save m room) = (.refused (.unsupportedKind m.kind), log) := by
  simp only [answer, save, Message.isChat, other, decide_false, Bool.false_eq_true, if_false]

/-- A message that is saved for a room adds nothing to any other. -/
theorem added?_save_of_ne {other : RoomId} (distinct : other ≠ room) (m : Message) :
    (Call.save m room).added? other = none := by
  simp [Call.added?, Ne.symm distinct]

/-- The last entries, after one more. -/
theorem push_rtake (pos : 0 < n) (entries : List ChatLogEntry) (e : ChatLogEntry) :
    push n (entries.rtake n) e = (entries ++ [e]).rtake n := by
  unfold push List.rtake
  rw [List.length_drop, List.length_append, List.length_singleton, List.drop_drop]
  by_cases full : n ≤ entries.length
  · rw [if_pos (by omega), List.drop_append_of_le_length (by omega)]
    congr 2
    omega
  · have room : entries.length - n = 0 := by omega
    have still : entries.length + 1 - n = 0 := by omega
    rw [room, still, if_neg (by omega), List.drop_zero, List.drop_zero]

theorem shows_withCapacity (capacity : Nat) : Shows (max capacity 1) [] (withCapacity capacity) :=
  ⟨rfl, fun _ => by simp [ChatLog.list, withCapacity, savedUnder]⟩

/-- A call adds its entry to the room that it is for and drops the oldest if there are too many; all
other rooms are what they were. -/
theorem Shows.answer (shows : Shows n calls log) (pos : 0 < n) (c : Call) :
    Shows n (calls ++ [c]) (log.answer c).2 := by
  cases c with
  | list room =>
    refine ⟨shows.capacity, fun other => ?_⟩
    rw [savedUnder_concat]
    simp [ChatLog.answer, Call.added?, shows.lists other]
  | save m room =>
    by_cases chat : m.kind = .chat
    · obtain ⟨e, added, saved⟩ := answer_save_of_chat log chat room
      rw [saved]
      refine ⟨shows.capacity, fun other => ?_⟩
      rw [ChatStore.list_replace, savedUnder_concat]
      split_ifs with here
      · subst here
        rw [shows.capacity, shows.lists, push_rtake pos, added]
        rfl
      · rw [shows.lists other, added?_save_of_ne here, Option.toList_none, List.append_nil]
    · rw [answer_save_of_not_chat log chat]
      refine ⟨shows.capacity, fun other => ?_⟩
      rw [savedUnder_concat]
      simp [Call.added?, chat, shows.lists other]

theorem shows_after (capacity : Nat) (calls : List Call) :
    Shows (max capacity 1) calls ((withCapacity capacity).after calls) := by
  induction calls using List.reverseRecOn with
  | nil => exact shows_withCapacity capacity
  | append_singleton calls c ih =>
    rw [after_concat]
    exact ih.answer (by omega) c

theorem room_of_mem_savedUnder {e : ChatLogEntry} (there : e ∈ savedUnder room calls) :
    e.roomId = room := by
  obtain ⟨c, -, added⟩ := List.mem_filterMap.1 there
  cases c with
  | list target => cases added
  | save m target =>
    simp only [Call.added?] at added
    split_ifs at added
    cases added
    rfl

/-- A log that holds `n` entries for each room does, after some calls, what one without a bound would
do, except that it shows the last entries only. -/
structure Refines (n : Nat) (calls : List Call) (log : ChatLog) : Prop where
  /-- A room is listed with the last of its entries, and nothing else comes of it. -/
  lists : ∀ room, log.answer (.list room) = (.listed ((savedUnder room calls).rtake n), log)
  bounded : ∀ room, (log.list room).length = min n (savedUnder room calls).length
  /-- Whichever room a message itself names, its entry names the one that it was saved for. -/
  targets : ∀ room, ∀ e ∈ log.list room, e.roomId = room
  /-- A chat message is saved as the newest entry of its target, just as it was sent. -/
  saves : ∀ m room, m.kind = .chat → (log.answer (.save m room)).1 = .saved ∧
    (log.answer (.save m room)).2.list room =
      (savedUnder room calls ++
        [({ roomId := room, senderId := m.senderId, senderName := m.senderName
            content := m.content, timestamp := m.timestamp } : ChatLogEntry)]).rtake n
  /-- Any other message is refused, and nothing comes of it. -/
  refuses : ∀ m room, m.kind ≠ .chat →
    log.answer (.save m room) = (.refused (.unsupportedKind m.kind), log)
  /-- Saving a message for one room leaves all others as they are. -/
  spares : ∀ m room other, other ≠ room →
    (log.answer (.save m room)).2.list other = log.list other

/-- A bounded log refines an unbounded one, whatever is saved for and listed of whichever rooms. -/
theorem bounded_log_law (capacity : Nat) (calls : List Call) :
    Refines (max capacity 1) calls ((withCapacity capacity).after calls) := by
  have shows := shows_after capacity calls
  generalize (withCapacity capacity).after calls = log at shows ⊢
  refine ⟨fun room => ?_, fun room => ?_, fun room e there => ?_, fun m room chat => ?_,
    fun m room other => answer_save_of_not_chat log other room, fun m room other distinct => ?_⟩
  · simp only [answer, shows.lists room]
  · rw [shows.lists room, List.rtake, List.length_drop]
    omega
  · rw [shows.lists room] at there
    exact room_of_mem_savedUnder (List.mem_of_mem_drop there)
  · obtain ⟨e, -, saved⟩ := answer_save_of_chat log chat room
    refine ⟨by rw [saved], ?_⟩
    have later := (shows.answer (by omega) (.save m room)).lists room
    rw [later, savedUnder_concat]
    simp [Call.added?, chat]
  · have later := (shows.answer (by omega) (.save m room)).lists other
    rw [later, shows.lists other, savedUnder_concat, added?_save_of_ne distinct, Option.toList_none,
      List.append_nil]

end ChatLog
end RoomHub
