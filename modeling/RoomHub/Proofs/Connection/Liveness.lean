import RoomHub.Proofs.Connection.Pacing
import RoomHub.Proofs.Connection.Service

/-!
# A peer that answers is not given up

A reader gives its peer up when neither a ping nor a pong comes in time.  `responsive_peer_kept`: if
the peer answers every ping at once, the reader never does so, provided that the pings come often
enough: between the strike of one ping and the end of the next one there may be a whole period, a
write that is still in progress, the messages that are preferred to the ping, and the write of the
ping.  All of it must fit into the time that the reader waits.  That the period alone is shorter is
not enough: with the default settings one slow message delays the ping until the reader has given its
peer up (`slow_write_starves`).
-/

namespace RoomHub

namespace Connection

variable {m : Move} {c : Connection} {now time due : Nat} {s : Server}

/-- A move that is not made when it is due stays due. -/
theorem dueAt_later (isDue : m.dueAt c now s = some due) (forward : now ≤ time) :
    now ≤ due ∧ m.dueAt c time s = some (max time due) := by
  have later (d : Nat) : max time (max now d) = max time d := by omega
  cases m with
  | hear f =>
    cases isDue
    exact ⟨Nat.le_refl _, congrArg some (Nat.max_eq_left forward).symm⟩
  | lose =>
    cases isDue
    exact ⟨Nat.le_refl _, congrArg some (Nat.max_eq_left forward).symm⟩
  | read =>
    simp only [Move.dueAt, readsAt] at isDue ⊢
    split_ifs at isDue ⊢ with reading
    cases isDue
    exact ⟨Nat.le_max_left .., by rw [later]⟩
  | write task =>
    simp only [Move.dueAt, writesAt, WritePump.readyAt] at isDue ⊢
    generalize c.writer.exit = exit, c.writer.current = current, c.supply s = supply at isDue ⊢
    cases exit with
    | some exit => cases isDue
    | none =>
      cases current with
      | some w =>
        cases task with
        | settle =>
          cases isDue
          exact ⟨Nat.le_max_left .., congrArg some (later w.endsAt).symm⟩
        | queue => cases isDue
        | tick => cases isDue
      | none =>
        cases task with
        | settle => cases isDue
        | queue =>
          cases supply with
          | none => cases isDue
          | some x =>
            cases isDue
            exact ⟨Nat.le_max_left .., congrArg some
              (show max time time = max time (max now now) by omega)⟩
        | tick =>
          cases isDue
          exact ⟨Nat.le_max_left .., congrArg some (later c.writer.ticker.due).symm⟩
  | conclude =>
    simp only [Move.dueAt, concludesAt] at isDue ⊢
    split_ifs at isDue ⊢ with ended
    cases isDue
    exact ⟨Nat.le_refl _, congrArg some (Nat.max_eq_left forward).symm⟩

/-- A reader that takes an arrival in time ends, or it waits for the next one, from then on if the
arrival was a ping or a pong. -/
theorem read_of_arrival (time : Nat) (s : Server) {arrives : Nat} {arrival : Arrival} {rest : List (Nat × Arrival)}
    (waiting : c.inbox = (arrives, arrival) :: rest) (inTime : arrives ≤ c.deadline) :
    (∃ inbox sent crashed, (c.read time s).1 = { c with inbox, sent, crashed, reading := false }) ∨
      ∃ sent, (c.read time s).1 = { c with
        inbox := rest
        sent := sent
        deadline := if ReadPump.judge c.config arrival = .alive then time + c.config.pongWait
          else c.deadline } := by
  obtain ⟨sent, same⟩ := ({ c with inbox := rest } : Connection).send_eq time (c.reply arrival)
  unfold read
  rw [waiting]
  dsimp only
  rw [if_neg (Nat.not_lt.mpr inTime), same]
  dsimp only [ReadPump.take]
  cases ReadPump.judge c.config arrival with
  | stop why => exact .inl ⟨rest, sent, c.crashed, rfl⟩
  | alive => exact .inr ⟨sent, by rw [if_pos rfl]⟩
  | relay m =>
    rw [if_neg nofun]
    dsimp only
    rcases ReadPump.relay s (!c.linked) c.participant.room c.participant.identity m with ⟨exit, t⟩
    match exit with
    | none => exact .inr ⟨sent, rfl⟩
    | some (.ended why) => exact .inl ⟨rest, sent, c.crashed, rfl⟩
    | some .crashed => exact .inl ⟨rest, sent, true, rfl⟩

/-- The notice of a reader that gives its peer up. -/
def givesUp (c : Connection) : Demand :=
  .report [.readStopped c.participant.id c.participant.room .deadlineExceeded]

theorem not_givesUp_of_taking {arrival : Arrival} : c.givesUp ∉ c.taking s arrival := by
  have stopping {why : ReadEnd} (other : why ≠ .deadlineExceeded) : c.givesUp ∉ c.stopping why := by
    unfold stopping farewell givesUp
    split_ifs <;> simp [other.symm]
  have payload {bytes : List UInt8} {why : ReadEnd}
      (h : ReadPump.judgePayload c.config bytes = .stop why) : why ≠ .deadlineExceeded := by
    unfold ReadPump.judgePayload at h
    split_ifs at h
    · cases h
      exact nofun
    · split at h <;> cases h
      exact nofun
  have judged {why : ReadEnd} (h : ReadPump.judge c.config arrival = .stop why) :
      why ≠ .deadlineExceeded := by
    unfold ReadPump.judge at h
    split at h
    case h_3 | h_4 => exact payload h
    all_goals
      cases h
      try exact nofun
  unfold taking
  split
  next why h => exact stopping (judged h)
  next => exact nofun
  next m _ =>
    split_ifs
    · unfold relaying
      rw [List.mem_cons, not_or]
      refine ⟨nofun, ?_⟩
      split
      · exact nofun
      · simp [givesUp]
      · exact stopping nofun
      · exact nofun
    · exact stopping nofun

end Connection

namespace Service

/-! ### Courses in which nothing is late -/

/-- The moves that are made for a connection as soon as they are due. -/
def duties : List Connection.Move :=
  [.read, .write .settle, .write .queue, .write .tick, .conclude]

/-- Whether no duty is put off if time passes. -/
def isIdleTo (x : Service) (time : Nat) : Bool :=
  duties.all fun m => (m.dueAt x.connection x.now x.server).all (time ≤ ·)

/-- Whether an incident is the end of a ping that reaches the peer. -/
def pings (x : Service) : Incident → Bool
  | .own (.write .settle) => x.connection.writer.current.any fun w => w.isPing && w.result.isOk
  | _ => false

/-- Whether the peer answers a ping; like the ping, a pong carries nothing. -/
def isAnswer : Incident → Bool
  | .own (.hear (.pong [])) => true
  | _ => false

/-- Whether the writer prefers its outbox to a strike that is due. -/
def prefers (x : Service) (time : Nat) : Incident → Bool
  | .own (.write .queue) => x.connection.writer.ticker.due ≤ time
  | _ => false

/-- How often the outbox may still be preferred after an incident: a strike that is taken starts a new
count. -/
def left (x : Service) (rounds left : Nat) (time : Nat) (i : Incident) : Nat :=
  match i with
  | .own (.write .tick) => rounds
  | _ => if x.prefers time i then left - 1 else left

/-- A course in which time passes only when no duty is due and no ping is left to be answered, and in
which the outbox is preferred to a strike that is due at most `rounds` times in a row. -/
def isTimely (rounds : Nat) : Service → Bool → Nat → List (Nat × Incident) → Bool
  | _, _, _, [] => true
  | x, owed, left, (time, i) :: course =>
    (time ≤ x.now || !owed && x.isIdleTo time) && (!x.prefers time i || 0 < left) &&
      isTimely rounds (x.step time i) (x.pings i || owed && !isAnswer i) (x.left rounds left time i)
        course

/-- What holds of a connection whose peer answers in time. -/
structure Kept (config : ConnectionConfig) (limit rounds : Nat) (x : Service) (owed : Bool)
    (left : Nat) : Prop where
  settings : x.connection.config = config
  swift : x.connection.sink.Swift limit
  tail : x.connection.tail = .silent
  fewer : left ≤ rounds
  unfinished : x.connection.reading = true → x.connection.endedAt = none
  arrived : x.connection.reading = true → ∀ a ∈ x.connection.inbox, a.1 ≤ x.now
  early : x.connection.reading = true → x.now < x.connection.deadline
  paced : x.connection.reading = true → x.connection.writer.exit = none →
    x.connection.writer.Paced x.now config.pingPeriod limit
  /-- A pong is on its way, or the next ping is written before the deadline. -/
  hears : x.connection.reading = true → x.connection.writer.exit = none →
    owed = true ∨ (∃ a ∈ x.connection.inbox, a.2 = .frame (.pong [])) ∨
      x.connection.writer.pingBy x.now limit left < x.connection.deadline

section Keeping

variable {config : ConnectionConfig} {limit rounds : Nat} {x : Service} {owed : Bool} {left time : Nat}
  {i : Incident}

/-- A connection that has lost its reader is kept whatever happens. -/
theorem Kept.of_not_reading (kept : x.Kept config limit rounds owed left) {y : Service} {owed' : Bool}
    {left' : Nat} (same : y.connection.config = x.connection.config)
    (sink : y.connection.sink.Swift limit) (tail : y.connection.tail = x.connection.tail)
    (fewer : left' ≤ rounds) (ended : y.connection.reading = false) :
    y.Kept config limit rounds owed' left' where
  settings := same.trans kept.settings
  swift := sink
  tail := tail.trans kept.tail
  fewer := fewer
  unfinished := fun reading => absurd (reading.symm.trans ended) nofun
  arrived := fun reading => absurd (reading.symm.trans ended) nofun
  early := fun reading => absurd (reading.symm.trans ended) nofun
  paced := fun reading => absurd (reading.symm.trans ended) nofun
  hears := fun reading => absurd (reading.symm.trans ended) nofun

theorem le_of_isIdleTo (idle : x.isIdleTo time = true) {m : Connection.Move} {due : Nat}
    (duty : m ∈ duties) (isDue : m.dueAt x.connection x.now x.server = some due) : time ≤ due := by
  have bound := List.all_eq_true.mp idle m duty
  rw [isDue] at bound
  exact of_decide_eq_true bound

/-- What has arrived is read at once. -/
theorem Kept.inbox_of_isIdleTo (kept : x.Kept config limit rounds owed left)
    (idle : x.isIdleTo time = true) (ahead : ¬time ≤ x.now)
    (reading : x.connection.reading = true) : x.connection.inbox = [] := by
  cases inbox : x.connection.inbox with
  | nil => rfl
  | cons next rest =>
    have arrived := kept.arrived reading next (by rw [inbox]; exact List.mem_cons_self)
    have bound := le_of_isIdleTo idle (m := .read) (by simp [duties])
      (show x.connection.readsAt x.now = _ from if_pos reading)
    rw [inbox, ReadPump.wakesAt] at bound
    omega

/-- A writer that has ended ends the connection at once. -/
theorem Kept.exit_of_isIdleTo (kept : x.Kept config limit rounds owed left)
    (idle : x.isIdleTo time = true) (ahead : ¬time ≤ x.now)
    (reading : x.connection.reading = true) : x.connection.writer.exit = none := by
  cases exit : x.connection.writer.exit with
  | none => rfl
  | some why =>
    have bound := le_of_isIdleTo idle (m := .conclude) (by simp [duties])
      (show x.connection.concludesAt x.now = some x.now by
        rw [Connection.concludesAt, exit, kept.unfinished reading]
        rfl)
    exact absurd bound ahead

/-- Time passes without harm as long as no duty is due. -/
theorem Kept.later (kept : x.Kept config limit rounds owed left) (forward : x.now ≤ time)
    (prompt : time ≤ x.now ∨ owed = false ∧ x.isIdleTo time = true) :
    ({ x with now := time } : Service).Kept config limit rounds owed left := by
  by_cases still : time ≤ x.now
  · rw [Nat.le_antisymm still forward]
    exact kept
  obtain ⟨answered, idle⟩ := prompt.resolve_left still
  by_cases reading : x.connection.reading = true
  · have early := kept.early reading
    have empty := kept.inbox_of_isIdleTo idle still reading
    have running := kept.exit_of_isIdleTo idle still reading
    have prompt : x.connection.writer.PutsOffNothing x.now
        ((x.connection.supply x.server).map fun _ => x.now) time := fun task due isDue =>
      le_of_isIdleTo idle (m := .write task) (by cases task <;> simp [duties]) isDue
    obtain ⟨paced, earlier, before⟩ :=
      (kept.paced reading running).later running forward prompt left
    have inTime : x.connection.writer.pingBy x.now limit left < x.connection.deadline := by
      rcases kept.hears reading running with owes | ⟨a, mem, -⟩ | inTime
      · cases owes.symm.trans answered
      · rw [empty] at mem
        cases mem
      · exact inTime
    exact {
      settings := kept.settings
      swift := kept.swift
      tail := kept.tail
      fewer := kept.fewer
      unfinished := kept.unfinished
      arrived := by simp [empty]
      early := fun _ => Nat.lt_of_le_of_lt before inTime
      paced := fun _ _ => paced
      hears := fun _ _ => .inr (.inr (Nat.lt_of_le_of_lt earlier inTime)) }
  · exact kept.of_not_reading rfl kept.swift rfl kept.fewer (by simpa using reading)

theorem allows_later (allows : x.allows time i = true) :
    x.now ≤ time ∧ ({ x with now := time } : Service).allows time i = true := by
  cases i with
  | own m =>
    simp only [Service.allows] at allows ⊢
    cases isDue : m.dueAt x.connection x.now x.server with
    | none =>
      rw [isDue] at allows
      cases allows
    | some due =>
      rw [isDue] at allows
      have bound : due ≤ time := of_decide_eq_true allows
      obtain ⟨forward, -⟩ := Connection.dueAt_later isDue (Nat.le_refl x.now)
      obtain ⟨-, later⟩ := Connection.dueAt_later isDue (Nat.le_trans forward bound)
      rw [later]
      exact ⟨Nat.le_trans forward bound, decide_eq_true (by omega)⟩
  | other room e =>
    simp only [Service.allows, Bool.and_eq_true] at allows ⊢
    exact ⟨of_decide_eq_true allows.1, decide_eq_true (Nat.le_refl time), allows.2⟩
  | _ => exact ⟨of_decide_eq_true allows, decide_eq_true (Nat.le_refl time)⟩

/-! ### One incident -/

/-- Something arrives; a pong may settle what the peer owes. -/
theorem Kept.arrive (kept : x.Kept config limit rounds owed left) (arrival : Arrival) (gone : Bool)
    {sink : Sink} (swift : sink.Swift limit) {owed' : Bool}
    (answered : owed' = owed ∨ arrival = .frame (.pong [])) :
    ({ x with connection := { x.connection with
      inbox := x.connection.inbox ++ [(x.now, arrival)], peerGone := gone, sink } } : Service).Kept
        config limit rounds owed' left where
  settings := kept.settings
  swift := swift
  tail := kept.tail
  fewer := kept.fewer
  unfinished := kept.unfinished
  arrived := by
    intro reading a mem
    rcases List.mem_append.mp mem with mem | mem
    · exact kept.arrived reading a mem
    · exact Nat.le_of_eq (congrArg Prod.fst (List.mem_singleton.mp mem))
  early := kept.early
  paced := kept.paced
  hears := by
    intro reading running
    rcases answered with rfl | pong
    · rcases kept.hears reading running with owes | ⟨a, mem, pong⟩ | inTime
      · exact .inl owes
      · exact .inr (.inl ⟨a, List.mem_append_left _ mem, pong⟩)
      · exact .inr (.inr inTime)
    · exact .inr (.inl ⟨(x.now, arrival), List.mem_append_right _ (List.mem_singleton.mpr rfl), pong⟩)

theorem Kept.hear (kept : x.Kept config limit rounds owed left) (f : Frame) :
    (x.step x.now (.own (.hear f))).Kept config limit rounds (owed && !isAnswer (.own (.hear f)))
      left := by
  refine kept.arrive _ _ kept.swift ?_
  unfold isAnswer
  split
  next same =>
    cases same
    exact .inr rfl
  next => exact .inl (Bool.and_true owed)

theorem Kept.lose (kept : x.Kept config limit rounds owed left) :
    (x.step x.now (.own .lose)).Kept config limit rounds owed left := by
  refine kept.arrive _ _ ?_ (.inl rfl)
  split_ifs
  · exact fun _ => ⟨0, some "broken pipe", rfl, Nat.zero_le limit⟩
  · exact kept.swift

/-- The reader takes an arrival and goes on.  After a ping or a pong the next ping is written in time,
wherever the writer stands. -/
theorem Kept.take (kept : x.Kept config limit rounds owed left)
    (margin : config.pingPeriod + (rounds + 2) * limit < config.pongWait) {arrives : Nat}
    {arrival : Arrival} {rest : List (Nat × Arrival)}
    (waiting : x.connection.inbox = (arrives, arrival) :: rest) (sent : List (Nat × Frame))
    (s : Server) :
    (⟨x.now, { x.connection with
      inbox := rest
      sent := sent
      deadline := if ReadPump.judge x.connection.config arrival = .alive
        then x.now + x.connection.config.pongWait else x.connection.deadline }, s⟩ : Service).Kept
          config limit rounds owed left where
  settings := kept.settings
  swift := kept.swift
  tail := kept.tail
  fewer := kept.fewer
  unfinished := kept.unfinished
  arrived := fun reading a mem =>
    kept.arrived reading a (by rw [waiting]; exact List.mem_cons_of_mem _ mem)
  early := by
    intro reading
    have early := kept.early reading
    dsimp only
    rw [kept.settings]
    split_ifs <;> omega
  paced := kept.paced
  hears := by
    intro reading running
    dsimp only
    rw [kept.settings]
    by_cases alive : ReadPump.judge config arrival = .alive
    · have latest := WritePump.pingBy_le (kept.paced reading running) left
      have fewer : (left + 2) * limit ≤ (rounds + 2) * limit :=
        Nat.mul_le_mul_right limit (Nat.add_le_add_right kept.fewer 2)
      rw [if_pos alive]
      exact .inr (.inr (by omega))
    · rw [if_neg alive]
      rcases kept.hears reading running with owes | ⟨a, mem, pong⟩ | inTime
      · exact .inl owes
      · rw [waiting] at mem
        rcases List.mem_cons.mp mem with rfl | mem
        · exact absurd (by rw [show arrival = .frame (.pong []) from pong]; rfl) alive
        · exact .inr (.inl ⟨a, mem, pong⟩)
      · exact .inr (.inr inTime)

/-- The reader takes what has arrived; its deadline has not come. -/
theorem Kept.read (kept : x.Kept config limit rounds owed left)
    (margin : config.pingPeriod + (rounds + 2) * limit < config.pongWait)
    (allows : x.allows x.now (.own .read) = true) :
    (x.step x.now (.own .read)).Kept config limit rounds owed left ∧
      x.connection.givesUp ∉ x.demands x.now (.own .read) := by
  have ready : x.connection.reading = true ∧
      ReadPump.wakesAt x.connection.tail x.connection.deadline x.connection.inbox ≤ x.now := by
    simp only [Service.allows, Connection.Move.dueAt, Connection.readsAt] at allows
    split_ifs at allows with reading
    · have bound := of_decide_eq_true allows
      exact ⟨reading, by omega⟩
    · cases allows
  obtain ⟨reading, wakes⟩ := ready
  have early := kept.early reading
  cases waiting : x.connection.inbox with
  | nil =>
    rw [waiting, kept.tail] at wakes
    exact absurd wakes (Nat.not_le.mpr early)
  | cons next rest =>
    obtain ⟨arrives, arrival⟩ := next
    have arrived : arrives ≤ x.now :=
      kept.arrived reading (arrives, arrival) (by rw [waiting]; exact List.mem_cons_self)
    have inTime : arrives ≤ x.connection.deadline := by omega
    constructor
    · rcases Connection.read_of_arrival x.now x.server waiting inTime with
        ⟨inbox, sent, crashed, same⟩ | ⟨sent, same⟩
      · refine kept.of_not_reading ?_ ?_ ?_ kept.fewer ?_ <;>
          simp only [Service.step, Connection.Move.perform, same]
        exact kept.swift
      · have taken := kept.take margin waiting sent (x.connection.read x.now x.server).2
        rw [← same] at taken
        exact taken
    · show x.connection.givesUp ∉ x.connection.readDemands x.server
      rw [Connection.readDemands, waiting]
      dsimp only
      rw [if_neg (Nat.not_lt.mpr inTime)]
      exact Connection.not_givesUp_of_taking

theorem able_of_allows {task : WritePump.Task}
    (allows : x.allows x.now (.own (.write task)) = true) :
    x.connection.writer.exit = none ∧
      x.connection.writer.Able x.now ((x.connection.supply x.server).map fun _ => x.now) task := by
  simp only [Service.allows, Connection.Move.dueAt] at allows
  cases ready : x.connection.writesAt x.now x.server task with
  | none =>
    rw [ready] at allows
    cases allows
  | some due =>
    rw [ready] at allows
    exact WritePump.able_of_readyAt ready (of_decide_eq_true allows)

/-- A move of the writer concerns nothing but the writer. -/
theorem Kept.write (kept : x.Kept config limit rounds owed left) {task : WritePump.Task} {writer : WritePump}
    (made : (x.connection.writer.perform x.connection.config x.connection.sink x.now
      (x.connection.supply x.server) task).1 = writer) {owed' : Bool} {left' : Nat}
    (fewer : left' ≤ rounds)
    (paced : x.connection.reading = true → writer.exit = none →
      writer.Paced x.now config.pingPeriod limit)
    (hears : x.connection.reading = true → writer.exit = none →
      owed' = true ∨ (∃ a ∈ x.connection.inbox, a.2 = .frame (.pong [])) ∨
        writer.pingBy x.now limit left' < x.connection.deadline) :
    (x.step x.now (.own (.write task))).Kept config limit rounds owed' left' := by
  obtain ⟨sent, same⟩ := x.connection.write_fst x.now x.server task
  rw [made] at same
  simp only [Service.step, Connection.Move.perform, same]
  exact ⟨kept.settings, kept.swift, kept.tail, fewer, kept.unfinished, kept.arrived, kept.early, paced,
    hears⟩

theorem Kept.settle (kept : x.Kept config limit rounds owed left)
    (allows : x.allows x.now (.own (.write .settle)) = true) :
    (x.step x.now (.own (.write .settle))).Kept config limit rounds
      (x.pings (.own (.write .settle)) || owed) left := by
  obtain ⟨running, w, writing, ended⟩ := able_of_allows allows
  have made : (x.connection.writer.perform x.connection.config x.connection.sink x.now
      (x.connection.supply x.server) .settle).1 = (x.connection.writer.settle w).1 := by
    simp only [WritePump.perform, writing]
  have settled (reading : x.connection.reading = true) :=
    (kept.paced reading running).settle writing ended left
  refine kept.write made kept.fewer (fun reading _ => (settled reading).1) fun reading goes => ?_
  by_cases isPing : w.isPing = true
  · refine .inl ?_
    rw [pings, writing, Option.any_some, isPing, WritePump.isOk_of_settle goes]
    rfl
  · rcases kept.hears reading running with owes | pong | inTime
    · exact .inl (by rw [owes, Bool.or_true])
    · exact .inr (.inl pong)
    · exact .inr (.inr (by rwa [(settled reading).2 (by simpa using isPing)]))

theorem Kept.queue (kept : x.Kept config limit rounds owed left) (within : limit ≤ config.writeWait)
    (allows : x.allows x.now (.own (.write .queue)) = true)
    (fair : x.prefers x.now (.own (.write .queue)) = true → 0 < left) :
    (x.step x.now (.own (.write .queue))).Kept config limit rounds owed
      (x.left rounds left x.now (.own (.write .queue))) := by
  obtain ⟨running, idle, supplied⟩ := able_of_allows allows
  obtain ⟨supply, supplied⟩ : ∃ supply, x.connection.supply x.server = some supply := by
    rwa [Option.isSome_map, Option.isSome_iff_exists] at supplied
  have made : (x.connection.writer.perform x.connection.config x.connection.sink x.now
      (x.connection.supply x.server) .queue).1 =
        x.connection.writer.begin config x.connection.sink x.now supply.frame := by
    simp only [WritePump.perform, supplied, kept.settings]
  have cost : if x.connection.writer.ticker.due ≤ x.now
      then x.left rounds left x.now (.own (.write .queue)) + 1 = left
      else x.left rounds left x.now (.own (.write .queue)) = left := by
    simp only [prefers, decide_eq_true_eq] at fair
    simp only [Service.left, prefers, decide_eq_true_eq]
    split_ifs with isDue
    · have := fair isDue
      omega
    · rfl
  have fewer : x.left rounds left x.now (.own (.write .queue)) ≤ left := by
    split_ifs at cost <;> omega
  have begun (reading : x.connection.reading = true) :=
    (kept.paced reading running).queue kept.swift within idle supply cost
  refine kept.write made (Nat.le_trans fewer kept.fewer) (fun reading _ => (begun reading).1)
    fun reading _ => ?_
  rcases kept.hears reading running with owes | pong | inTime
  · exact .inl owes
  · exact .inr (.inl pong)
  · exact .inr (.inr (Nat.lt_of_le_of_lt (begun reading).2 inTime))

theorem Kept.tick (kept : x.Kept config limit rounds owed left) (within : limit ≤ config.writeWait)
    (allows : x.allows x.now (.own (.write .tick)) = true) :
    (x.step x.now (.own (.write .tick))).Kept config limit rounds owed rounds := by
  obtain ⟨running, idle, isDue⟩ := able_of_allows allows
  have made : (x.connection.writer.perform x.connection.config x.connection.sink x.now
      (x.connection.supply x.server) .tick).1 =
        x.connection.writer.tick config x.connection.sink x.now := by
    simp only [WritePump.perform, kept.settings]
  have begun (reading : x.connection.reading = true) :=
    (kept.paced reading running).tick kept.swift within idle isDue left rounds
  refine kept.write made (Nat.le_refl rounds) (fun reading _ => (begun reading).1) fun reading _ => ?_
  rcases kept.hears reading running with owes | pong | inTime
  · exact .inl owes
  · exact .inr (.inl pong)
  · exact .inr (.inr (Nat.lt_of_le_of_lt (begun reading).2 inTime))

theorem Kept.conclude (kept : x.Kept config limit rounds owed left) :
    (x.step x.now (.own .conclude)).Kept config limit rounds owed left ∧
      x.connection.givesUp ∉ x.demands x.now (.own .conclude) := by
  refine ⟨kept.of_not_reading rfl kept.swift rfl kept.fewer rfl, ?_⟩
  have reported : x.connection.givesUp ≠
      .report (x.connection.writer.exit.map x.connection.writerNotice).toList := by
    unfold Connection.givesUp
    cases x.connection.writer.exit with
    | none => rintro ⟨⟩
    | some exit => cases exit <;> rintro ⟨⟩
  simp only [demands, Connection.Move.demands, Connection.farewell, List.mem_append, not_or]
  constructor
  · split_ifs <;> simp [Connection.givesUp]
  · split_ifs
    · exact List.not_mem_nil
    · rwa [List.mem_singleton]

/-- Whatever happens in time, the connection is kept, and its reader does not give the peer up. -/
theorem Kept.step (kept : x.Kept config limit rounds owed left) (within : limit ≤ config.writeWait)
    (margin : config.pingPeriod + (rounds + 2) * limit < config.pongWait)
    (allows : x.allows time i = true) (prompt : time ≤ x.now ∨ owed = false ∧ x.isIdleTo time = true)
    (fair : x.prefers time i = true → 0 < left) :
    (x.step time i).Kept config limit rounds (x.pings i || owed && !isAnswer i)
        (x.left rounds left time i) ∧
      x.connection.givesUp ∉ x.demands time i := by
  obtain ⟨forward, allows⟩ := allows_later allows
  have kept := kept.later forward prompt
  have unanswered : (owed && true) = owed := Bool.and_true owed
  cases i with
  | own m =>
    cases m with
    | hear f => exact ⟨kept.hear f, nofun⟩
    | lose => exact ⟨unanswered.symm ▸ kept.lose, nofun⟩
    | read =>
      obtain ⟨later, quiet⟩ := kept.read margin allows
      exact ⟨unanswered.symm ▸ later, quiet⟩
    | conclude =>
      obtain ⟨later, quiet⟩ := kept.conclude
      exact ⟨unanswered.symm ▸ later, quiet⟩
    | write task =>
      constructor
      · cases task with
        | settle => exact unanswered.symm ▸ kept.settle allows
        | queue => exact unanswered.symm ▸ kept.queue within allows fair
        | tick => exact unanswered.symm ▸ kept.tick within allows
      · intro given
        rcases x.connection.demand_of_write time x.server given with same | same <;> cases same
  | _ =>
    exact ⟨unanswered.symm ▸ ⟨kept.settings, kept.swift, kept.tail, kept.fewer, kept.unfinished,
      kept.arrived, kept.early, kept.paced, kept.hears⟩, nofun⟩

/-! ### Courses -/

theorem givesUp_step (x : Service) (time : Nat) (i : Incident) :
    (x.step time i).connection.givesUp = x.connection.givesUp := by
  rw [Connection.givesUp, Connection.givesUp, participant_step]

theorem Kept.along {course : List (Nat × Incident)} (kept : x.Kept config limit rounds owed left)
    (within : limit ≤ config.writeWait)
    (margin : config.pingPeriod + (rounds + 2) * limit < config.pongWait)
    (allowed : x.allowed course = true) (timely : x.isTimely rounds owed left course = true) :
    x.connection.givesUp ∉ Service.along demands x course := by
  induction course generalizing x owed left with
  | nil => exact nofun
  | cons incident course ih =>
    obtain ⟨time, i⟩ := incident
    obtain ⟨allows, allowed⟩ := Bool.and_eq_true_iff.mp allowed
    simp only [isTimely, Bool.and_eq_true, Bool.or_eq_true, Bool.not_eq_true', decide_eq_true_eq]
      at timely
    obtain ⟨⟨prompt, fair⟩, timely⟩ := timely
    obtain ⟨later, quiet⟩ := kept.step within margin allows prompt fun preferred =>
      fair.resolve_left fun other => nomatch preferred.symm.trans other
    have rest := ih later allowed timely
    rw [givesUp_step] at rest
    rw [Service.along, List.mem_append, not_or]
    exact ⟨quiet, rest⟩

theorem kept_start (margin : config.pingPeriod + (rounds + 2) * limit < config.pongWait)
    (participant : Participant) (now : Nat) {sink : Sink} (swift : sink.Swift limit)
    (answersPings : Bool) (s : Server) :
    (start now { Connection.start participant config now with sink, answersPings } s).Kept config
      limit rounds false rounds where
  settings := rfl
  swift := swift
  tail := rfl
  fewer := Nat.le_refl rounds
  unfinished := fun _ => rfl
  arrived := fun _ => nofun
  early := fun _ => by
    show now < now + config.pongWait
    omega
  paced := fun _ _ => ⟨rfl, Nat.le_refl _, nofun, nofun⟩
  hears := fun _ _ => by
    have split : (rounds + 2) * limit = limit + (rounds + 1) * limit := by
      rw [show rounds + 2 = 1 + (rounds + 1) by omega, Nat.add_mul, Nat.one_mul]
    refine .inr (.inr ?_)
    rw [WritePump.pingBy_of_idle rfl]
    show max now (now + config.pingPeriod + limit) + (rounds + 1) * limit < now + config.pongWait
    omega

end Keeping

/-- A reader does not give its peer up as long as the peer answers every ping at once, no write takes
longer than `limit`, a message is preferred to a ping that is due at most `rounds` times in a row, and
a period and `rounds + 2` such writes are shorter than the time that the reader waits.  The messages
may come at any time. -/
theorem responsive_peer_kept {config : ConnectionConfig} {limit rounds : Nat}
    (within : limit ≤ config.writeWait)
    (margin : config.pingPeriod + (rounds + 2) * limit < config.pongWait)
    (participant : Participant) (now : Nat) {sink : Sink} (swift : sink.Swift limit)
    (answersPings : Bool) (s : Server) (course : List (Nat × Incident)) :
    let x := start now { Connection.start participant config now with sink, answersPings } s
    x.allowed course = true → x.isTimely rounds false rounds course = true →
      .report [.readStopped participant.id participant.room .deadlineExceeded] ∉
        along demands x course :=
  fun allowed timely =>
    (kept_start margin participant now swift answersPings s).along within margin allowed timely

open Sample in
/-- `ann` in the studio, whose peer takes some time for each frame. -/
def unhurried (config : ConnectionConfig) (ms : Nat) : Service :=
  start 0
    { Connection.start ⟨annId, ann, studio, ⟨annId, 0⟩⟩ config 0 with sink := fun _ => .lasts ms none }
    ({ Sample.server with clock := some .epoch }.admitUser annId ann studio).2

open Sample in
/-- A message delays a ping, which is answered, as is the next one; the first deadline passes. -/
theorem responsive_peer_kept_sample :
    .report [.readStopped annId studio .deadlineExceeded] ∉
      along demands (unhurried { pingPeriod := 50, pongWait := 100, writeWait := 10 } 10)
        [(45, .other studio (.broadcast (saying "one"))), (45, .own (.write .queue)),
          (55, .own (.write .settle)), (55, .own (.write .tick)), (65, .own (.write .settle)),
          (65, .own (.hear (.pong []))), (65, .own .read), (100, .own (.write .tick)),
          (110, .own (.write .settle)), (110, .own (.hear (.pong []))), (110, .own .read),
          (150, .cutOff)] :=
  responsive_peer_kept (by decide : 10 ≤ 10) (by decide : 50 + (0 + 2) * 10 < 100) _ 0
    (fun _ => ⟨10, none, rfl, by decide⟩) false _ _ (by decide +kernel) (by decide +kernel)

open Sample in
/-- With the default settings a message that takes eight seconds to be written is written past the
time at which the ping is due and past the deadline, though all writes keep to their limit and the
peer leaves no ping without an answer. -/
theorem slow_write_starves :
    let config : ConnectionConfig := {}
    let course := [(53000, .other studio (.broadcast (saying "one"))), (53000, .own (.write .queue)),
      (60000, .own .read)]
    0 < config.pingPeriod ∧ config.pingPeriod < config.pongWait ∧
      Sink.Swift config.writeWait (unhurried config 8000).connection.sink ∧
      (unhurried config 8000).allowed course = true ∧
      (unhurried config 8000).isTimely 0 false 0 course = true ∧
      .report [.readStopped annId studio .deadlineExceeded] ∈
        along demands (unhurried config 8000) course := by
  intro config course
  refine ⟨by decide, by decide, fun _ => ⟨8000, none, rfl, by decide⟩, by decide +kernel,
    by decide +kernel, ?_⟩
  -- nothing has come when the reader wakes at its deadline
  refine List.mem_append_right _ (List.mem_append_right _ (List.mem_append_left _ ?_))
  exact List.mem_append_left _ (List.mem_singleton.mpr rfl)

end Service

end RoomHub
