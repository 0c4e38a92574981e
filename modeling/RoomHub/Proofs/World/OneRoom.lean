import RoomHub.Proofs.Server.OneRoom
import RoomHub.Proofs.World.Coupling

/-!
# Rooms do not interfere

Two worlds agree on a room (`World.AgreeOn`) if their servers do and the room has the same
connections in both.  Whatever happens that concerns the room keeps worlds in agreement
(`AgreeOn.happen`), and what concerns another room changes nothing for it (`AgreeOn.skip`).  So all
that concerns other rooms can be left out of a history (`confined`).
-/

namespace RoomHub
namespace Http

open Server

variable {s t : Server} {room : RoomId}

theorem answerMessages_agreeOn (h : AgreeOn room s t) (known : Option Identity)
    {segment : List Char} (named : roomOf? segment = some room) :
    Outcome.Coupled (AgreeOn room) True (answerMessages s known segment)
      (answerMessages t known segment) := by
  obtain ⟨raw, decoded, read⟩ := text_of_roomOf? named
  unfold answerMessages
  rw [decoded]
  cases known with
  | none => exact plain_coupled h _
  | some identity =>
    dsimp only
    rw [read]
    dsimp only
    rw [h.chatLog_eq]
    cases t.chatLog room with
    | error why => exact plain_coupled (h.report _ _) _
    | ok entries => exact plain_coupled (h.report _ _) _

/-- A request about a room gets the same answer from servers that agree on it. -/
theorem answer_agreeOn (h : AgreeOn room s t) {r : Request} (about : r.room? = some room) :
    Outcome.Coupled (AgreeOn room) True (s.answer r) (t.answer r) := by
  refine answer_coupled (agreeOn_coupling room).toCoupling ?_ ?_ ?_ h
  · intro segment other route named
    rw [room?_of_route route] at about
    cases about.symm.trans named
    exact agreeOn_coupling room
  · intro s t route
    rw [room?_of_route route] at about
    cases about
  · intro s t known segment route _ agree
    rw [room?_of_route route] at about
    exact answerMessages_agreeOn agree known about

end Http

namespace World

open Server Http

variable {w v : World} {room : RoomId}

/-- The connections of a room. -/
def connectionsOf (w : World) (room : RoomId) : List Connection :=
  w.connections.filter (·.participant.room = room)

/-- Two worlds have the same of a room. -/
structure AgreeOn (room : RoomId) (w v : World) : Prop where
  server : w.server.AgreeOn room v.server
  connections : w.connectionsOf room = v.connectionsOf room

/-! ### Changing a list in a place that a filter keeps or drops -/

theorem filter_set_of_dropped {α : Type} {p : α → Bool} {l : List α} {place : Nat} {x y : α}
    (there : l[place]? = some x) (old : p x = false) (new : p y = false) :
    (l.set place y).filter p = l.filter p := by
  induction l generalizing place with
  | nil => rfl
  | cons z l ih =>
    cases place with
    | zero =>
      cases there
      simp [old, new]
    | succ place =>
      rw [List.set_cons_succ, List.filter_cons, List.filter_cons, ih there]

theorem filter_set_findIdx {α : Type} {p q : α → Bool} (l : List α) {y : α}
    (kept : ∀ x, q x = true → p x = true) (new : p y = true) :
    (l.set (l.findIdx q) y).filter p = (l.filter p).set ((l.filter p).findIdx q) y := by
  induction l with
  | nil => rfl
  | cons x l ih =>
    by_cases found : q x = true
    · simp [List.findIdx_cons, found, kept x found, new]
    · by_cases there : p x = true
      · simp [List.findIdx_cons, found, there, ih]
      · simp [List.findIdx_cons, found, there, ih]

theorem getElem?_findIdx_filter {α : Type} {p q : α → Bool} (l : List α)
    (kept : ∀ x, q x = true → p x = true) :
    (l.filter p)[(l.filter p).findIdx q]? = l[l.findIdx q]? := by
  rw [← List.find?_eq_getElem?_findIdx, ← List.find?_eq_getElem?_findIdx, List.find?_filter]
  congr 1
  funext x
  cases found : q x with
  | true => simp [kept x found]
  | false => simp

/-! ### What concerns other rooms -/

theorem dated_of_room? {x : Happening} {other : RoomId} (concerned : x.room? = some other)
    (s : Server) : x.dated s = s := by
  cases x with
  | step x =>
    cases x with
    | setClocks clock now => cases concerned
    | _ => rfl
  | _ => rfl

theorem agreeOn_dated {s t : Server} (h : s.AgreeOn room t) (x : Happening) :
    (x.dated s).AgreeOn room (x.dated t) := by
  cases x with
  | step x =>
    cases x with
    | setClocks clock now => exact ⟨h.settings, rfl, rfl, h.hub, h.store⟩
    | _ => exact h
  | _ => exact h

theorem connectionsOf_happen_elsewhere (w : World) (time : Nat) {x : Happening}
    (elsewhere : x.room? ≠ some room) :
    (w.happen time x).connectionsOf room = w.connectionsOf room := by
  have connects := connects_happen w time x
  unfold connectionsOf
  generalize (w.happen time x).connections = connections at connects
  cases connects with
  | nobody => rfl
  | @moves c m connected =>
    have distinct : c.participant.room ≠ room := fun e => elsewhere (congrArg some e)
    refine filter_set_of_dropped connected (by simpa using distinct) ?_
    rw [Connection.participant_perform]
    simpa using distinct
  | @admits p r s admits =>
    have distinct : p.room ≠ room := fun e => elsewhere (admits.room?_eq.trans (congrArg some e))
    simp [opened, Connection.start, distinct]
  | @enrolls p s =>
    have distinct : p.room ≠ room := fun e => elsewhere (congrArg some e)
    simp [opened, Connection.start, distinct]

/-- What concerns another room, or none, changes nothing for a room but the clocks. -/
theorem server_happen_elsewhere (w : World) (time : Nat) {x : Happening}
    (elsewhere : x.room? ≠ some room) :
    (x.dated w.server).AgreeOn room (w.happen time x).server :=
  (leads_happen w time x).agreeOn fun _ causes => elsewhere causes.room?_eq

/-! ### What concerns the room -/

theorem of_room_and_id {room : RoomId} {id : ConnectionId} (c : Connection)
    (found : decide (c.participant.room = room ∧ c.participant.id = id) = true) :
    decide (c.participant.room = room) = true :=
  decide_eq_true (of_decide_eq_true found).1

theorem AgreeOn.connectionIn?_eq (h : AgreeOn room w v) (id : ConnectionId) :
    w.connectionIn? room id = v.connectionIn? room id := by
  simp only [connectionIn?, place]
  rw [← getElem?_findIdx_filter w.connections of_room_and_id,
    ← getElem?_findIdx_filter v.connections of_room_and_id]
  have same := h.connections
  unfold connectionsOf at same
  rw [same]

theorem AgreeOn.move (h : AgreeOn room w v) (time : Nat) (id : ConnectionId) (m : Connection.Move) :
    AgreeOn room (w.step time (.move room id m)) (v.step time (.move room id m)) := by
  have same := h.connectionIn?_eq id
  cases found : w.connectionIn? room id with
  | none =>
    rw [step_move_of_none found, step_move_of_none (same ▸ found)]
    exact h
  | some c =>
    rw [step_move_of_some found, step_move_of_some (same ▸ found)]
    obtain ⟨rfl, -⟩ := participant_of_connectionIn? found
    obtain ⟨d, s, t, hs, ht, agree⟩ :=
      (Connection.perform_coupled (agreeOn_coupling _) m time h.server).split
    have own : d.participant = c.participant := by
      have := Connection.participant_perform m c time w.server
      rwa [hs] at this
    rw [hs, ht]
    refine ⟨agree, ?_⟩
    have new : decide (d.participant.room = c.participant.room) = true := by simp [own]
    have same := h.connections
    simp only [connectionsOf, place] at same ⊢
    rw [filter_set_findIdx w.connections of_room_and_id new,
      filter_set_findIdx v.connections of_room_and_id new, same]

theorem AgreeOn.together {w' v' : World} (h : AgreeOn room w v)
    (entered : Together (Server.AgreeOn room) room w v w' v') : AgreeOn room w' v' := by
  have same : w.connections.filter (·.participant.room = room) =
      v.connections.filter (·.participant.room = room) := h.connections
  cases entered with
  | opens own related => exact ⟨related, by simp only [connectionsOf, List.filter_append, same]⟩
  | fails related => exact ⟨related, same⟩

theorem AgreeOn.request (h : AgreeOn room w v) (time : Nat) (id : ConnectionId) {r : Request}
    (about : r.room? = some room) :
    AgreeOn room (w.step time (.request id r)) (v.step time (.request id r)) := by
  have answered := answer_agreeOn h.server about
  have agree : AgreeOn room { w with now := time, server := (w.server.answer r).server }
      { v with now := time, server := (v.server.answer r).server } :=
    ⟨answered.server, h.connections⟩
  simp only [step, answer]
  rw [← answered.entering]
  split
  next user other entering =>
    obtain rfl : other = room := Option.some.inj ((room?_of_entering entering).symm.trans about)
    exact agree.together (enter_together (agreeOn_coupling other) agree.server rfl id user)
  · exact agree

theorem AgreeOn.enroll (h : AgreeOn room w v) (time : Nat) (id : ConnectionId) (user : Identity) :
    AgreeOn room (w.happen time (.enroll id user room)) (v.happen time (.enroll id user room)) := by
  have dated : AgreeOn room { w with now := time } { v with now := time } :=
    ⟨h.server, h.connections⟩
  exact dated.together (enroll_together (agreeOn_coupling room) dated.server rfl id user)

/-- What is not left out keeps worlds in agreement. -/
theorem AgreeOn.happen (h : AgreeOn room w v) (time : Nat) (x : Happening)
    (kept : x.room? = none ∨ x.room? = some room) :
    AgreeOn room (w.happen time x) (v.happen time x) := by
  rcases kept with nowhere | here
  · -- the clocks are set or it is about no room: each world goes its own way
    have elsewhere : x.room? ≠ some room := by simp [nowhere]
    have left := server_happen_elsewhere w time elsewhere
    have right := server_happen_elsewhere v time elsewhere
    refine ⟨(left.symm.trans (agreeOn_dated h.server x)).trans right, ?_⟩
    rw [connectionsOf_happen_elsewhere w time elsewhere,
      connectionsOf_happen_elsewhere v time elsewhere, h.connections]
  · cases x with
    | step x =>
      cases x with
      | request id r => exact h.request time id here
      | move other id m =>
        cases here
        exact h.move time id m
      | setClocks clock now => cases here
    | ask r => exact ⟨(answer_agreeOn h.server here).server, h.connections⟩
    | resolve other =>
      cases here
      exact ⟨(agreeOn_coupling room).resolved h.server, h.connections⟩
    | announce user other =>
      cases here
      exact ⟨(agreeOn_coupling room).announce h.server user, h.connections⟩
    | enroll id user other =>
      cases here
      exact h.enroll time id user

/-- What is left out changes nothing for the room. -/
theorem AgreeOn.skip (h : AgreeOn room w v) (time : Nat) {x : Happening} {other : RoomId}
    (concerned : x.room? = some other) (distinct : other ≠ room) :
    AgreeOn room (w.happen time x) v := by
  have elsewhere : x.room? ≠ some room := by simpa [concerned] using distinct
  have left := server_happen_elsewhere w time elsewhere
  rw [dated_of_room? concerned] at left
  have same := connectionsOf_happen_elsewhere w time elsewhere
  exact ⟨left.symm.trans h.server, same.trans h.connections⟩

/-! ### Histories -/

/-- A history without what concerns other rooms than this one. -/
def confined (room : RoomId) (history : List (Nat × Happening)) : List (Nat × Happening) :=
  history.filter fun x => x.2.room? = none ∨ x.2.room? = some room

/-- The answer to a happening that is a request about a room. -/
def reply? (w : World) (room : RoomId) (time : Nat) : Happening → Option (Except Crash Response)
  | .step (.request id r) =>
    if r.room? = some room then some ({ w with now := time }.answer id r).1 else none
  | .ask r => if r.room? = some room then some (w.server.answer r).response else none
  | _ => none

/-- The answers to all requests about a room in a history, one after the other. -/
def replies (room : RoomId) : World → List (Nat × Happening) → List (Except Crash Response)
  | _, [] => []
  | w, (time, x) :: history =>
    (w.reply? room time x).toList ++ replies room (w.happen time x) history

theorem AgreeOn.reply?_eq (h : AgreeOn room w v) (time : Nat) (x : Happening) :
    w.reply? room time x = v.reply? room time x := by
  have same (r : Request) (about : r.room? = some room) :
      (w.server.answer r).response = (v.server.answer r).response :=
    (answer_agreeOn h.server about).response trivial
  unfold reply?
  split
  · simp only [answer_fst]
    split_ifs with about
    · rw [same _ about]
    · rfl
  · split_ifs with about
    · rw [same _ about]
    · rfl
  · rfl

theorem reply?_of_elsewhere (w : World) (time : Nat) {x : Happening}
    (elsewhere : x.room? ≠ some room) : w.reply? room time x = none := by
  unfold reply?
  split
  · exact if_neg elsewhere
  · exact if_neg elsewhere
  · rfl

/-- Leaving out what concerns other rooms keeps worlds in agreement, and the answers the same. -/
theorem AgreeOn.through_confined (h : AgreeOn room w v) (history : List (Nat × Happening)) :
    AgreeOn room (w.through history) (v.through (confined room history)) ∧
      replies room w history = replies room v (confined room history) := by
  induction history generalizing w v with
  | nil => exact ⟨h, rfl⟩
  | cons x history ih =>
    obtain ⟨time, x⟩ := x
    by_cases kept : x.room? = none ∨ x.room? = some room
    · have confines : confined room ((time, x) :: history) = (time, x) :: confined room history :=
        List.filter_cons_of_pos (by simpa using kept)
      obtain ⟨agree, same⟩ := ih (h.happen time x kept)
      rw [confines]
      exact ⟨agree, by simp only [replies, h.reply?_eq time x, same]⟩
    · have confines : confined room ((time, x) :: history) = confined room history :=
        List.filter_cons_of_neg (by simpa using kept)
      obtain ⟨somewhere, elsewhere⟩ := not_or.1 kept
      obtain ⟨other, concerned⟩ := Option.ne_none_iff_exists'.1 somewhere
      have distinct : other ≠ room := fun e => elsewhere (e ▸ concerned)
      -- this happens only in the world of the whole history
      obtain ⟨agree, same⟩ := ih (h.skip time concerned distinct)
      rw [confines]
      exact ⟨agree, by simp only [replies, reply?_of_elsewhere w time elsewhere, same]; rfl⟩

/-- Whatever happens, with admissions in one go or in parts, a room is the same without all that
concerns other rooms: its hub with the members and with what was taken from and waits in each outbox,
its chat log, its connections with all that they have received and sent, and the answers to all
requests about it. -/
theorem rooms_never_interfere (w : World) (history : List (Nat × Happening)) (room : RoomId) :
    (w.through (confined room history)).server.hub? room =
      (w.through history).server.hub? room ∧
    (w.through (confined room history)).server.chatLog room =
      (w.through history).server.chatLog room ∧
    (w.through (confined room history)).connectionsOf room =
      (w.through history).connectionsOf room ∧
    replies room w (confined room history) = replies room w history := by
  have start : AgreeOn room w w := ⟨.refl room w.server, rfl⟩
  obtain ⟨agree, same⟩ := start.through_confined history
  exact ⟨agree.server.hub.symm, agree.server.chatLog_eq.symm, agree.connections.symm, same.symm⟩

end World
end RoomHub
