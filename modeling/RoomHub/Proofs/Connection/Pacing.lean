import Mathlib.Tactic.SplitIfs
import RoomHub.Connection.WritePump

/-!
# When a write pump has written its next ping

`WritePump.pingBy` bounds the time at which a pump has written its next ping, for a sink that takes
each frame within `limit` and for a pump that prefers its outbox to a strike of the ticker at most
`rounds` times in a row.  Neither the passing of time nor a move of the pump raises the bound, other
than the end of a ping; from then on the next one takes at most a period and `rounds + 2` writes
(`pingBy_le`).
-/

namespace RoomHub

/-- A sink that takes each frame, or fails to, within `limit` milliseconds. -/
def Sink.Swift (limit : Nat) (sink : Sink) : Prop :=
  ∀ n, ∃ ms error, sink n = .lasts ms error ∧ ms ≤ limit

/-- Whether the frame that is being written is a ping. -/
def Writing.isPing (w : Writing) : Bool := w.frame matches .ping _

namespace WritePump

/-- A pump that strikes every `period`: its ticker is due within a period, and the write in progress
ends within `limit`. -/
structure Paced (p : WritePump) (now period limit : Nat) : Prop where
  every : p.ticker.period = period
  due : p.ticker.due ≤ now + period
  begun : ∀ w, p.current = some w → now ≤ w.endsAt
  ends : ∀ w, p.current = some w → w.endsAt ≤ now + limit

/-- A time by which the next ping is written: a write that is in progress comes first, a write that
begins before the ticker is due may delay the strike, `rounds` messages may still be preferred to it,
and the ping takes its time, too. -/
def pingBy (p : WritePump) (now limit rounds : Nat) : Nat :=
  match p.current with
  | none => max now (p.ticker.due + limit) + (rounds + 1) * limit
  | some w =>
    if w.isPing then w.endsAt
    else max w.endsAt (p.ticker.due + limit) + (rounds + 1) * limit

variable {p : WritePump} {now time period limit rounds : Nat} {supplyAt : Option Nat} {config : ConnectionConfig} {sink : Sink}

theorem pingBy_of_idle (idle : p.current = none) :
    p.pingBy now limit rounds = max now (p.ticker.due + limit) + (rounds + 1) * limit := by
  rw [pingBy, idle]

theorem pingBy_of_writing {w : Writing} (writing : p.current = some w) :
    p.pingBy now limit rounds =
      if w.isPing then w.endsAt
      else max w.endsAt (p.ticker.due + limit) + (rounds + 1) * limit := by
  rw [pingBy, writing]

theorem pingBy_le (paced : p.Paced now period limit) (rounds : Nat) :
    p.pingBy now limit rounds ≤ now + period + (rounds + 2) * limit := by
  have due := paced.due
  have split : (rounds + 2) * limit = limit + (rounds + 1) * limit := by
    rw [show rounds + 2 = 1 + (rounds + 1) by omega, Nat.add_mul, Nat.one_mul]
  cases writing : p.current with
  | none =>
    rw [pingBy_of_idle writing]
    omega
  | some w =>
    have ends := paced.ends w writing
    rw [pingBy_of_writing writing]
    split_ifs <;> omega

/-! ### Time passes -/

/-- No move of the pump is put off beyond `time`. -/
def PutsOffNothing (p : WritePump) (now : Nat) (supplyAt : Option Nat) (time : Nat) : Prop :=
  ∀ task due, p.readyAt now supplyAt task = some due → time ≤ due

/-- Time passes at most up to the next strike or the end of the write in progress. -/
theorem le_of_putsOffNothing (running : p.exit = none) (prompt : p.PutsOffNothing now supplyAt time)
    (paced : p.Paced now period limit) :
    match p.current with
    | none => time ≤ max now p.ticker.due
    | some w => time ≤ w.endsAt := by
  cases writing : p.current with
  | none => exact prompt .tick _ (by simp [readyAt, running, writing])
  | some w =>
    have begun := paced.begun w writing
    have := prompt .settle (max now w.endsAt) (by simp [readyAt, running, writing])
    show time ≤ w.endsAt
    omega

theorem Paced.later (paced : p.Paced now period limit) (running : p.exit = none)
    (forward : now ≤ time) (prompt : p.PutsOffNothing now supplyAt time) (rounds : Nat) :
    p.Paced time period limit ∧ p.pingBy time limit rounds ≤ p.pingBy now limit rounds ∧
      time ≤ p.pingBy now limit rounds := by
  have due := paced.due
  have bound := le_of_putsOffNothing running prompt paced
  cases writing : p.current with
  | none =>
    rw [writing] at bound
    simp only at bound
    refine ⟨⟨paced.every, by omega, by simp [writing], by simp [writing]⟩, ?_, ?_⟩
    · rw [pingBy_of_idle writing, pingBy_of_idle writing]
      omega
    · rw [pingBy_of_idle writing]
      omega
  | some w =>
    have ends := paced.ends w writing
    rw [writing] at bound
    simp only at bound
    refine ⟨⟨paced.every, by omega, ?_, ?_⟩, ?_, ?_⟩
    · rintro w' writing'
      cases writing.symm.trans writing'
      exact bound
    · rintro w' writing'
      cases writing.symm.trans writing'
      omega
    · exact Nat.le_of_eq (by rw [pingBy_of_writing writing, pingBy_of_writing writing])
    · rw [pingBy_of_writing writing]
      split_ifs <;> omega

/-! ### The moves of the pump -/

/-- A write in progress is waited for; only without one do the outbox and the ticker count. -/
theorem readyAt_settle {due : Nat} : p.readyAt now supplyAt .settle = some due ↔
    p.exit = none ∧ ∃ w, p.current = some w ∧ due = max now w.endsAt := by
  unfold readyAt
  cases p.exit <;> cases p.current <;> simp [eq_comm]

theorem readyAt_queue {due : Nat} : p.readyAt now supplyAt .queue = some due ↔
    p.exit = none ∧ p.current = none ∧
      ∃ supplied, supplyAt = some supplied ∧ due = max now supplied := by
  unfold readyAt
  cases p.exit <;> cases p.current <;> simp [eq_comm]

theorem readyAt_tick {due : Nat} : p.readyAt now supplyAt .tick = some due ↔
    p.exit = none ∧ p.current = none ∧ due = max now p.ticker.due := by
  unfold readyAt
  cases p.exit <;> cases p.current <;> simp [eq_comm]

/-- What a pump needs for a move at the time `now`. -/
def Able (p : WritePump) (now : Nat) (supplyAt : Option Nat) : Task → Prop
  | .settle => ∃ w, p.current = some w ∧ w.endsAt ≤ now
  | .queue => p.current = none ∧ supplyAt.isSome = true
  | .tick => p.current = none ∧ p.ticker.due ≤ now

theorem able_of_readyAt {task : Task} {due : Nat} (ready : p.readyAt now supplyAt task = some due)
    (bound : due ≤ now) : p.exit = none ∧ p.Able now supplyAt task := by
  cases task with
  | settle =>
    obtain ⟨running, w, writing, rfl⟩ := readyAt_settle.mp ready
    exact ⟨running, w, writing, Nat.le_trans (Nat.le_max_right ..) bound⟩
  | queue =>
    obtain ⟨running, idle, supplied, supplies, -⟩ := readyAt_queue.mp ready
    exact ⟨running, idle, supplies ▸ rfl⟩
  | tick =>
    obtain ⟨running, idle, rfl⟩ := readyAt_tick.mp ready
    exact ⟨running, idle, Nat.le_trans (Nat.le_max_right ..) bound⟩

/-- A pump goes on only after a write that succeeded. -/
theorem isOk_of_settle {w : Writing} (goes : (p.settle w).1.exit = none) : w.result.isOk = true := by
  obtain ⟨frame, endsAt, result⟩ := w
  cases result with
  | ok => rfl
  | error why => cases frame <;> cases goes

theorem begin_eq (swift : sink.Swift limit) (within : limit ≤ config.writeWait) (p : WritePump)
    (time : Nat) (frame : Frame) :
    ∃ w, p.begin config sink time frame = { p with begun := p.begun + 1, current := some w } ∧
      w.frame = frame ∧ time ≤ w.endsAt ∧ w.endsAt ≤ time + limit := by
  obtain ⟨ms, error, takes, short⟩ := swift p.begun
  refine ⟨_, rfl, ?_⟩
  rw [takes]
  simp only [if_pos (Nat.le_trans short within)]
  exact ⟨trivial, Nat.le_add_right .., Nat.add_le_add_left short time⟩

/-- A pump is paced as soon as it begins to write. -/
theorem paced_of_writing {w : Writing} (every : p.ticker.period = period)
    (due : p.ticker.due ≤ time + period) (writing : p.current = some w) (begun : time ≤ w.endsAt)
    (ends : w.endsAt ≤ time + limit) : p.Paced time period limit where
  every := every
  due := due
  begun := by
    intro w' writing'
    cases writing.symm.trans writing'
    exact begun
  ends := by
    intro w' writing'
    cases writing.symm.trans writing'
    exact ends

/-- A message may be preferred to a strike, at the cost of a round if the ticker is due. -/
theorem Paced.queue (paced : p.Paced time period limit) (swift : sink.Swift limit)
    (within : limit ≤ config.writeWait) (idle : p.current = none) (supply : Supply) {fewer : Nat}
    (cost : if p.ticker.due ≤ time then fewer + 1 = rounds else fewer = rounds) :
    (p.begin config sink time supply.frame).Paced time period limit ∧
      (p.begin config sink time supply.frame).pingBy time limit fewer ≤
        p.pingBy time limit rounds := by
  obtain ⟨w, same, frame, begun, ends⟩ := begin_eq swift within p time supply.frame
  have noPing : w.isPing = false := by
    rw [Writing.isPing, frame]
    cases supply <;> rfl
  rw [same]
  refine ⟨paced_of_writing paced.every paced.due rfl begun ends, ?_⟩
  rw [pingBy_of_writing rfl, noPing, if_neg (by decide), pingBy_of_idle idle]
  show max w.endsAt (p.ticker.due + limit) + (fewer + 1) * limit ≤ _
  split_ifs at cost with isDue
  · subst cost
    have split : (fewer + 1 + 1) * limit = limit + (fewer + 1) * limit := by
      rw [Nat.add_mul (fewer + 1), Nat.one_mul, Nat.add_comm]
    omega
  · subst cost
    omega

/-- A strike that is taken is written within the bound. -/
theorem Paced.tick (paced : p.Paced time period limit) (swift : sink.Swift limit)
    (within : limit ≤ config.writeWait) (idle : p.current = none) (isDue : p.ticker.due ≤ time)
    (rounds fresh : Nat) :
    (p.tick config sink time).Paced time period limit ∧
      (p.tick config sink time).pingBy time limit fresh ≤ p.pingBy time limit rounds := by
  have every := paced.every
  obtain ⟨w, same, frame, begun, ends⟩ :=
    begin_eq swift within { p with ticker := p.ticker.take time } time (.ping [])
  have isPing : w.isPing = true := by rw [Writing.isPing, frame]
  have next : (p.ticker.take time).due ≤ time + period := by
    simp only [Ticker.take]
    split_ifs <;> omega
  rw [WritePump.tick, same]
  refine ⟨paced_of_writing every next rfl begun ends, ?_⟩
  rw [pingBy_of_writing rfl, isPing, if_pos rfl, pingBy_of_idle idle]
  have round : limit ≤ (rounds + 1) * limit := Nat.le_mul_of_pos_left limit (Nat.succ_pos rounds)
  omega

/-- A write that is over and was none of a ping leaves the bound as it is. -/
theorem Paced.settle (paced : p.Paced time period limit) {w : Writing}
    (writing : p.current = some w) (ended : w.endsAt ≤ time) (rounds : Nat) :
    (p.settle w).1.Paced time period limit ∧
      (w.isPing = false → (p.settle w).1.pingBy time limit rounds = p.pingBy time limit rounds) := by
  have atEnd : time = w.endsAt := Nat.le_antisymm (paced.begun w writing) ended
  have settled : (p.settle w).1.ticker = p.ticker ∧ (p.settle w).1.current = none := by
    unfold WritePump.settle
    dsimp only
    split <;> exact ⟨rfl, rfl⟩
  refine ⟨⟨settled.1 ▸ paced.every, settled.1 ▸ paced.due, by simp [settled.2], by simp [settled.2]⟩,
    fun noPing => ?_⟩
  rw [pingBy_of_idle settled.2, pingBy_of_writing writing, noPing, settled.1, ← atEnd]
  rfl

end WritePump
end RoomHub
