import RoomHub.Proofs.Connection.Pacing
import RoomHub.Proofs.Schedule

/-!
# Courses of a write pump

A pump by itself, with the messages that come into its outbox, makes one move after the other.  Each
is made at the earliest time at which any is possible; of several that are possible at that time any
may come first (`Run.allows`).  `Run.Step` is all that such a move can do (`step_of_allows`), and
`Run.starts` lists the writes that the moves of a course begin.  A pump that is run with some choice
between its moves makes one of these courses (`exists_course`).
-/

namespace RoomHub

/-- Whether a frame is a ping. -/
def Frame.isPing (f : Frame) : Bool := f matches .ping _

/-- Whether a frame ends a connection. -/
def Frame.isClose (f : Frame) : Bool := f matches .close _

namespace WritePump

/-- How a write ends that begins at the time `begun`: when and with what result, given what the sink
makes of it. -/
inductive Ensues (writeWait begun : Nat) : Write → Nat → Except WriteEnd Unit → Prop
  | written {ms : Nat} (within : ms ≤ writeWait) :
      Ensues writeWait begun (.lasts ms none) (begun + ms) (.ok ())
  | failed {ms : Nat} {reason : String} (within : ms ≤ writeWait) :
      Ensues writeWait begun (.lasts ms (some reason)) (begun + ms) (.error (.failed reason))
  | slow {ms : Nat} {error : Option String} (beyond : writeWait < ms) :
      Ensues writeWait begun (.lasts ms error) (begun + writeWait) (.error .timeout)
  | stalled : Ensues writeWait begun .never (begun + writeWait) (.error .timeout)

theorem Ensues.le {writeWait begun ended : Nat} {write : Write} {result : Except WriteEnd Unit}
    (ensues : Ensues writeWait begun write ended result) : begun ≤ ended := by
  cases ensues <;> exact Nat.le_add_right ..

/-- The writes of a pump never end for the outbox. -/
theorem Ensues.ne_queueClosed {writeWait begun ended : Nat} {write : Write} {why : WriteEnd}
    (ensues : Ensues writeWait begun write ended (.error why)) : why ≠ .queueClosed := by
  cases ensues <;> nofun

theorem Ensues.eq_of_timeout {writeWait begun ended : Nat} {write : Write}
    (ensues : Ensues writeWait begun write ended (.error .timeout)) : ended = begun + writeWait := by
  cases ensues <;> rfl

theorem begin_ensues (p : WritePump) (config : ConnectionConfig) (sink : Sink) (time : Nat)
    (frame : Frame) :
    ∃ w, p.begin config sink time frame = { p with begun := p.begun + 1, current := some w } ∧
      w.frame = frame ∧ Ensues config.writeWait time (sink p.begun) w.endsAt w.result := by
  refine ⟨_, rfl, ?_⟩
  cases sink p.begun with
  | never => exact ⟨rfl, .stalled⟩
  | lasts ms error =>
    dsimp only
    split_ifs with within
    · cases error with
      | none => exact ⟨rfl, .written within⟩
      | some reason => exact ⟨rfl, .failed within⟩
    · exact ⟨rfl, .slow (Nat.lt_of_not_le within)⟩

theorem eq_close_of_isClose {f : Frame} (h : f.isClose = true) : ∃ reason, f = .close reason := by
  cases f with
  | close reason => exact ⟨reason, rfl⟩
  | _ => cases h

/-- Nothing follows a closing frame, written or not. -/
theorem settle_of_close (p : WritePump) {w : Writing} {reason : Option (Nat × String)}
    (closing : w.frame = .close reason) : ∃ written, (written = none ∨ written = some w.frame) ∧
      p.settle w =
        ({ p with current := none, exit := some (.ended .queueClosed) }, written) := by
  obtain ⟨frame, endsAt, result⟩ := w
  subst closing
  cases result with
  | ok => exact ⟨_, .inr rfl, rfl⟩
  | error why => exact ⟨_, .inl rfl, rfl⟩

theorem settle_of_ok (p : WritePump) {w : Writing} (other : w.frame.isClose = false)
    (result : w.result = .ok ()) : p.settle w = ({ p with current := none }, some w.frame) := by
  obtain ⟨frame, endsAt, _⟩ := w
  subst result
  cases frame with
  | close reason => cases other
  | _ => rfl

theorem settle_of_error (p : WritePump) {w : Writing} {why : WriteEnd}
    (other : w.frame.isClose = false) (result : w.result = .error why) :
    p.settle w = ({ p with current := none, exit := some (.ended why) }, none) := by
  obtain ⟨frame, endsAt, _⟩ := w
  subst result
  cases frame with
  | close reason => cases other
  | _ => rfl

namespace Run

/-- A pump that begins at the time `now`. -/
def start (config : ConnectionConfig) (now : Nat) (arrivals : List (Nat × Message))
    (closesAt : Option Nat) : Run :=
  ⟨now, WritePump.start config now, arrivals, closesAt, []⟩

/-- Whether a move can be made at a time: it is possible from then on, and no other is earlier. -/
def allows (r : Run) (time : Nat) (task : Task) : Bool :=
  r.readyAt task == some time &&
    [Task.settle, .queue, .tick].all fun other => (r.readyAt other).all (time ≤ ·)

/-- A pump after a course of moves. -/
def after (r : Run) (config : ConnectionConfig) (sink : Sink) (course : List (Nat × Task)) : Run :=
  course.foldl (fun r move => r.perform config sink move.1 move.2) r

/-- Whether a course can come. -/
def allowed (config : ConnectionConfig) (sink : Sink) : Run → List (Nat × Task) → Bool
  | _, [] => true
  | r, (time, task) :: course =>
    r.allows time task && allowed config sink (r.perform config sink time task) course

/-- The write that a move begins, with its time. -/
def begins (r : Run) (config : ConnectionConfig) (sink : Sink) (time : Nat) (task : Task) :
    Option (Nat × Frame) :=
  match r.pump.current with
  | some _ => none
  | none => (r.perform config sink time task).pump.current.map fun w => (time, w.frame)

/-- The writes that the moves of a course begin, one after the other. -/
def starts (config : ConnectionConfig) (sink : Sink) : Run → List (Nat × Task) → List (Nat × Frame)
  | _, [] => []
  | r, (time, task) :: course =>
    (r.begins config sink time task).toList ++
      starts config sink (r.perform config sink time task) course

/-! ### What a move can do -/

/-- All that a move can do: it ends the write in progress, which was a closing frame or succeeded or
failed, or it begins a write of the next message, of a closing frame or of a ping. -/
inductive Step (config : ConnectionConfig) (sink : Sink) (r : Run) (time : Nat) :
    Option (Nat × Frame) → Run → Prop
  | closed {w : Writing} {reason : Option (Nat × String)} (running : r.pump.exit = none)
      (writing : r.pump.current = some w) (ended : time = max r.now w.endsAt)
      (closing : w.frame = .close reason) (written : List (Nat × Frame))
      (atMost : written = [] ∨ written = [(time, .close reason)]) :
      Step config sink r time none
        { r with
            now := time
            pump := { r.pump with current := none, exit := some (.ended .queueClosed) }
            written := r.written ++ written }
  | wrote {w : Writing} (running : r.pump.exit = none) (writing : r.pump.current = some w)
      (ended : time = max r.now w.endsAt) (other : w.frame.isClose = false)
      (result : w.result = .ok ()) :
      Step config sink r time none
        { r with
            now := time
            pump := { r.pump with current := none }
            written := r.written ++ [(time, w.frame)] }
  | failed {w : Writing} {why : WriteEnd} (running : r.pump.exit = none)
      (writing : r.pump.current = some w) (ended : time = max r.now w.endsAt)
      (other : w.frame.isClose = false) (result : w.result = .error why) :
      Step config sink r time none
        { r with
            now := time
            pump := { r.pump with current := none, exit := some (.ended why) } }
  | message {arrives : Nat} {m : Message} {rest : List (Nat × Message)} {w : Writing}
      (running : r.pump.exit = none) (idle : r.pump.current = none) (forward : r.now ≤ time)
      (waiting : r.arrivals = (arrives, m) :: rest) (arrived : arrives ≤ time)
      (frame : w.frame = .text (Wire.messageText m))
      (ensues : Ensues config.writeWait time (sink r.pump.begun) w.endsAt w.result) :
      Step config sink r time (some (time, w.frame))
        { r with
            now := time
            pump := { r.pump with begun := r.pump.begun + 1, current := some w }
            arrivals := rest }
  | closing {closesAt : Nat} {w : Writing} (running : r.pump.exit = none)
      (idle : r.pump.current = none) (forward : r.now ≤ time) (drained : r.arrivals = [])
      (closes : r.closesAt = some closesAt) (given : closesAt ≤ time) (frame : w.frame = .close none)
      (ensues : Ensues config.writeWait time (sink r.pump.begun) w.endsAt w.result) :
      Step config sink r time (some (time, w.frame))
        { r with
            now := time
            pump := { r.pump with begun := r.pump.begun + 1, current := some w } }
  | ping {w : Writing} (running : r.pump.exit = none) (idle : r.pump.current = none)
      (struck : time = max r.now r.pump.ticker.due) (frame : w.frame = .ping [])
      (ensues : Ensues config.writeWait time (sink r.pump.begun) w.endsAt w.result) :
      Step config sink r time (some (time, w.frame))
        { r with
            now := time
            pump := { r.pump with
              ticker := r.pump.ticker.take time
              begun := r.pump.begun + 1
              current := some w } }

variable {config : ConnectionConfig} {sink : Sink} {r : Run} {time : Nat} {task : Task}

theorem readyAt_of_allows (allows : r.allows time task = true) : r.readyAt task = some time :=
  eq_of_beq (Bool.and_eq_true_iff.mp allows).1

theorem step_of_settle (ready : r.readyAt .settle = some time) :
    Step config sink r time (r.begins config sink time .settle)
      (r.perform config sink time .settle) := by
  obtain ⟨running, w, writing, ended⟩ := readyAt_settle.mp ready
  have begins : r.begins config sink time .settle = none := by rw [Run.begins, writing]
  have performed : r.perform config sink time .settle =
      { r with
          now := time
          pump := (r.pump.settle w).1
          written := r.written ++ ((r.pump.settle w).2.map ((time, ·))).toList } := by
    simp only [perform, WritePump.perform, writing]
    rfl
  rw [begins, performed]
  cases closing : w.frame.isClose with
  | true =>
    obtain ⟨reason, closing⟩ := eq_close_of_isClose closing
    obtain ⟨written, atMost, settled⟩ := r.pump.settle_of_close closing
    rw [settled]
    refine .closed running writing ended closing _ ?_
    rcases atMost with rfl | rfl
    · exact .inl rfl
    · exact .inr (by rw [closing]; rfl)
  | false =>
    cases result : w.result with
    | ok =>
      rw [r.pump.settle_of_ok closing result]
      exact .wrote running writing ended closing result
    | error why =>
      rw [r.pump.settle_of_error closing result]
      have failed : Step config sink r time none _ := .failed running writing ended closing result
      simpa using failed

theorem step_of_queue (ready : r.readyAt .queue = some time) :
    Step config sink r time (r.begins config sink time .queue)
      (r.perform config sink time .queue) := by
  obtain ⟨running, idle, supplied, supply, soonest⟩ := readyAt_queue.mp ready
  have forward : r.now ≤ time := by omega
  cases waiting : r.arrivals with
  | cons next rest =>
    obtain ⟨arrives, m⟩ := next
    have supply' : r.supply = some (arrives, .message m) := by rw [Run.supply, waiting]
    obtain ⟨w, begun, frame, ensues⟩ :=
      r.pump.begin_ensues config sink time (.text (Wire.messageText m))
    have arrived : arrives ≤ time := by
      rw [supply'] at supply
      obtain rfl : arrives = supplied := Option.some.inj supply
      exact soonest ▸ Nat.le_max_right ..
    have performed : r.perform config sink time .queue =
        { r with
            now := time
            pump := { r.pump with begun := r.pump.begun + 1, current := some w }
            arrivals := rest } := by
      simp [perform, WritePump.perform, supply', Supply.frame, begun, waiting]
    rw [Run.begins, idle, performed]
    exact .message running idle forward waiting arrived frame ensues
  | nil =>
    have supply' : r.supply = r.closesAt.map fun time => (time, .closed) := by
      rw [Run.supply, waiting]
    rw [supply', Option.map_map] at supply
    obtain ⟨closesAt, closes, same⟩ := Option.map_eq_some_iff.mp supply
    obtain rfl : closesAt = supplied := same
    have given : closesAt ≤ time := soonest ▸ Nat.le_max_right ..
    obtain ⟨w, begun, frame, ensues⟩ := r.pump.begin_ensues config sink time (.close none)
    have performed : r.perform config sink time .queue =
        { r with
            now := time
            pump := { r.pump with begun := r.pump.begun + 1, current := some w } } := by
      simp [perform, WritePump.perform, supply', closes, Supply.frame, begun, waiting]
    rw [Run.begins, idle, performed]
    exact .closing running idle forward waiting closes given frame ensues

theorem step_of_tick (ready : r.readyAt .tick = some time) :
    Step config sink r time (r.begins config sink time .tick)
      (r.perform config sink time .tick) := by
  obtain ⟨running, idle, struck⟩ := readyAt_tick.mp ready
  obtain ⟨w, begun, frame, ensues⟩ :=
    ({ r.pump with ticker := r.pump.ticker.take time } : WritePump).begin_ensues config sink time
      (.ping [])
  have performed : r.perform config sink time .tick =
      { r with
          now := time
          pump := { r.pump with
            ticker := r.pump.ticker.take time
            begun := r.pump.begun + 1
            current := some w } } := by
    simp [perform, WritePump.perform, WritePump.tick, begun]
  rw [Run.begins, idle, performed]
  exact .ping running idle struck frame ensues

/-- A move that is made when it is allowed does one of the things that a move can do. -/
theorem step_of_allows (config : ConnectionConfig) (sink : Sink) (allows : r.allows time task = true) :
    Step config sink r time (r.begins config sink time task) (r.perform config sink time task) := by
  have ready := readyAt_of_allows allows
  cases task with
  | settle => exact step_of_settle ready
  | queue => exact step_of_queue ready
  | tick => exact step_of_tick ready

/-- What a move begins and makes of the pump holds along a course if every move keeps it. -/
theorem kept_along {P : List (Nat × Frame) → Run → Prop}
    (kept : ∀ {starts : List (Nat × Frame)} {r r' : Run} {time : Nat} {start : Option (Nat × Frame)},
      P starts r → Step config sink r time start r' → P (starts ++ start.toList) r')
    {starts : List (Nat × Frame)} {course : List (Nat × Task)} (holds : P starts r)
    (allowed : r.allowed config sink course = true) :
    P (starts ++ r.starts config sink course) (r.after config sink course) := by
  induction course generalizing starts r with
  | nil => simpa [Run.starts, after] using holds
  | cons move course ih =>
    obtain ⟨time, task⟩ := move
    obtain ⟨allows, allowed⟩ := Bool.and_eq_true_iff.mp allowed
    have next := ih (kept holds (step_of_allows config sink allows)) allowed
    rwa [List.append_assoc] at next

/-! ### Pumps that are run -/

theorem allows_of_next {pingFirst : Bool} (next : r.next pingFirst = some (time, task)) :
    r.allows time task = true := by
  have listed (other : Task) {due : Nat} (ready : r.readyAt other = some due) :
      (due, other) ∈ (tasks pingFirst).flatMap fun task => timed task (r.readyAt task) := by
    refine List.mem_flatMap.mpr ⟨other, ?_, by rw [timed, ready]; exact List.mem_singleton_self _⟩
    cases pingFirst <;> cases other <;> decide
  have possible : r.readyAt task = some time := by
    obtain ⟨other, -, mem⟩ := List.mem_flatMap.mp (mem_of_earliest next)
    obtain ⟨due, ready, same⟩ := Option.map_eq_some_iff.mp (Option.mem_toList.mp mem)
    cases same
    exact ready
  have earlier (other : Task) : (r.readyAt other).all (time ≤ ·) = true := by
    cases ready : r.readyAt other with
    | none => rfl
    | some due => exact decide_eq_true (le_of_earliest next (listed other ready))
  simp only [allows, possible, earlier, List.all_cons, List.all_nil, beq_self_eq_true, Bool.and_true]

/-- A pump that is run makes one of its courses, however the choices between its moves are made. -/
theorem exists_course (config : ConnectionConfig) (sink : Sink) (choose : Nat → Bool)
    (horizon fuel : Nat) (r : Run) :
    ∃ course, r.allowed config sink course = true ∧
      runTo config sink choose horizon fuel r = r.after config sink course := by
  induction fuel generalizing r with
  | zero => exact ⟨[], rfl, rfl⟩
  | succ fuel ih =>
    rw [runTo]
    split
    next time task next =>
      split_ifs
      · obtain ⟨course, allowed, same⟩ := ih (r.perform config sink time task)
        exact ⟨(time, task) :: course, Bool.and_eq_true_iff.mpr ⟨allows_of_next next, allowed⟩, same⟩
      · exact ⟨[], rfl, rfl⟩
    next => exact ⟨[], rfl, rfl⟩

end Run
end WritePump
end RoomHub
