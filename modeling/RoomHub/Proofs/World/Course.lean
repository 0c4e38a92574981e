import RoomHub.Exchange

/-!
# The course of a world

What can happen to a server and its connections, one thing at a time: a request comes, which may
open a socket, a connection or its peer makes a move, or the clocks are set.  Connections are named
by their room and their id.  A course is a list of such steps, each with the time at which it is
made; the steps may come in any order and at any times.
-/

namespace RoomHub

open Calendar

/-- What a connection and its peer can do. -/
inductive Connection.Move where
  /-- The peer sends a frame. -/
  | hear (f : Frame)
  /-- The peer goes away without a word. -/
  | lose
  | read
  | write (task : WritePump.Task)
  | conclude

/-- Makes a move of a connection at a time. -/
def Connection.Move.perform : Move → Connection → Nat → Server → Connection × Server
  | .hear f, c, time, s => (c.hear time f, s)
  | .lose, c, time, s => (c.lose time, s)
  | .read, c, time, s => c.read time s
  | .write task, c, time, s => c.write task time s
  | .conclude, c, time, s => c.conclude time s

namespace World

/-- One thing that happens to a world. -/
inductive Step where
  /-- A request comes; a socket that it opens becomes the connection `id`. -/
  | request (id : ConnectionId) (r : Http.Request)
  /-- The connection `id` of a room makes a move. -/
  | move (room : RoomId) (id : ConnectionId) (m : Connection.Move)
  /-- The clocks are set, the one that messages show and the one that tokens are verified by. -/
  | setClocks (clock : Option Instant) (now : Nat)

/-- A server with the clocks that a step sets. -/
def Step.dated : Step → Server → Server
  | .setClocks clock now, s => { s with clock, now }
  | .request _ _, s | .move _ _ _, s => s

/-- The place of the connection `id` of a room; if there is none, no connection is there. -/
def place (w : World) (room : RoomId) (id : ConnectionId) : Nat :=
  w.connections.findIdx fun c => c.participant.room = room ∧ c.participant.id = id

/-- The connection `id` of a room. -/
def connectionIn? (w : World) (room : RoomId) (id : ConnectionId) : Option Connection :=
  w.connections[w.place room id]?

/-- Makes a step at a time. -/
def step (w : World) (time : Nat) : Step → World
  | .request id r => ({ w with now := time }.answer id r).2
  | .move room id m => w.act time (w.place room id) m.perform
  | .setClocks clock now =>
    { w with now := time, server := (Step.setClocks clock now).dated w.server }

/-- The world after a course. -/
def after (w : World) (course : List (Nat × Step)) : World :=
  course.foldl (fun w x => w.step x.1 x.2) w

theorem after_concat (w : World) (course : List (Nat × Step)) (time : Nat) (x : Step) :
    w.after (course ++ [(time, x)]) = (w.after course).step time x := by
  simp [after]

theorem participant_of_connectionIn? {w : World} {room : RoomId} {id : ConnectionId}
    {c : Connection} (found : w.connectionIn? room id = some c) :
    c.participant.room = room ∧ c.participant.id = id := by
  obtain ⟨bound, rfl⟩ := List.getElem?_eq_some_iff.1 found
  simpa [place] using List.findIdx_getElem (w := bound)

theorem hubs_dated (x : Step) (s : Server) : (x.dated s).hubs = s.hubs := by
  cases x <;> rfl

/-- A move of a connection that is not there does nothing. -/
theorem step_move_of_none {w : World} {room : RoomId} {id : ConnectionId}
    (absent : w.connectionIn? room id = none) (time : Nat) (m : Connection.Move) :
    w.step time (.move room id m) = w := by
  simp only [connectionIn?] at absent
  simp only [step, act, absent]

theorem step_move_of_some {w : World} {room : RoomId} {id : ConnectionId} {c : Connection}
    (found : w.connectionIn? room id = some c) (time : Nat) (m : Connection.Move) :
    w.step time (.move room id m) =
      { w with
          now := time
          server := (m.perform c time w.server).2
          connections := w.connections.set (w.place room id) (m.perform c time w.server).1 } := by
  simp only [connectionIn?] at found
  simp only [step, act, found]

/-- The connection that a request opens for a participant. -/
def opened (participant : Participant) (s : Server) (time : Nat) : Connection :=
  { Connection.start participant s.settings.config time with answersPings := true }

theorem answer_fst (w : World) (id : ConnectionId) (r : Http.Request) :
    (w.answer id r).1 = (w.server.answer r).response := by
  unfold answer
  dsimp only
  split <;> rfl

section Request

variable {w : World} {r : Http.Request} {id : ConnectionId} {user : Identity} {room : RoomId}
  {participant : Participant} {s : Server}

theorem step_request_of_none (nobody : (w.server.answer r).entering = none) (time : Nat)
    (id : ConnectionId) :
    w.step time (.request id r) = { w with now := time, server := (w.server.answer r).server } := by
  simp only [step, answer, nobody]

theorem step_request_of_ok (enters : (w.server.answer r).entering = some (user, room))
    (admitted : (w.server.answer r).server.admitUser id user room = (.ok participant, s))
    (time : Nat) :
    w.step time (.request id r) =
      { w with
          now := time
          server := (opened participant s time).release s
          connections := w.connections ++ [opened participant s time] } := by
  simp only [step, answer, enters, enter, admitted]
  rfl

theorem step_request_of_error {why : Failure AdmissionError}
    (enters : (w.server.answer r).entering = some (user, room))
    (refused : (w.server.answer r).server.admitUser id user room = (.error why, s)) (time : Nat) :
    ∃ notices,
      w.step time (.request id r) = { w with now := time, server := s.report notices } := by
  simp only [step, answer, enters, enter, refused]
  cases why with
  | refused why => exact ⟨_, rfl⟩
  | crashed crash => exact ⟨[], by simp [Server.report]⟩

end Request

/-- What a request does to a world: nothing but its answer, or it lets somebody enter a room, or it
fails to. -/
theorem step_request_cases (w : World) (time : Nat) (id : ConnectionId) (r : Http.Request) :
    ((w.server.answer r).entering = none ∧
      w.step time (.request id r) = { w with now := time, server := (w.server.answer r).server }) ∨
    ∃ user room, (w.server.answer r).entering = some (user, room) ∧
      ((∃ participant s, (w.server.answer r).server.admitUser id user room = (.ok participant, s) ∧
        w.step time (.request id r) =
          { w with
              now := time
              server := (opened participant s time).release s
              connections := w.connections ++ [opened participant s time] }) ∨
      ∃ why s notices, (w.server.answer r).server.admitUser id user room = (.error why, s) ∧
        w.step time (.request id r) = { w with now := time, server := s.report notices }) := by
  cases entering : (w.server.answer r).entering with
  | none => exact .inl ⟨rfl, step_request_of_none entering time id⟩
  | some who =>
    obtain ⟨user, room⟩ := who
    refine .inr ⟨user, room, rfl, ?_⟩
    rcases admitting : (w.server.answer r).server.admitUser id user room with ⟨result, s⟩
    cases result with
    | ok participant => exact .inl ⟨participant, s, rfl, step_request_of_ok entering admitting time⟩
    | error why =>
      obtain ⟨notices, step⟩ := step_request_of_error entering admitting time
      exact .inr ⟨why, s, notices, rfl, step⟩

end World
end RoomHub
