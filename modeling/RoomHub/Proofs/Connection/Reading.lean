import RoomHub.Connection.ReadPump
import RoomHub.Proofs.Sample
import RoomHub.Proofs.Server.Spreading

/-!
# What a read pump takes and what it hands on

`ReadPump.Ends` says which arrivals end a pump, and how; `ReadPump.Takes` is all that a pump can
make of one arrival when the hub of its room runs.  The deadline moves with each ping and pong
(`ReadPump.deadlineAfter`).  By induction on the arrivals these give `reading_law`: how far a pump
comes, how it ends and when, and that it spreads the messages of the frames that it takes.
-/

namespace RoomHub

open Calendar

/-- Whether an arrival shows that the peer is there. -/
def Arrival.isSign : Arrival → Bool
  | .frame (.ping _) | .frame (.pong _) => true
  | _ => false

/-- The payload of a frame that carries data. -/
def Arrival.data? : Arrival → Option (List UInt8)
  | .frame (.text s) => some (Text.Utf8.ofText s)
  | .frame (.binary bytes) => some bytes
  | _ => none

/-- What an arrival makes its sender say: an edit or a chat message in the sender's name, for the room
and with the time on the clock.  Without a time nothing is said. -/
def Arrival.said (a : Arrival) (sender : Identity) (room : RoomId) (clock : Option Instant) :
    List Message :=
  match a.data?.bind fun bytes => (Wire.Inbound.decode bytes).toOption, clock with
  | some m, some time =>
    if m.kind = .roomClosed then []
    else
      [{ kind := m.kind, senderId := sender.userId, senderName := sender.displayName
         content := m.content, timestamp := time, roomId := room }]
  | _, _ => []

namespace ReadPump

variable {config : ConnectionConfig} {a : Arrival} {why : ReadEnd}

/-- The arrivals that end a pump. -/
inductive Ends (config : ConnectionConfig) : Arrival → ReadEnd → Prop
  | closed (reason : Option (Nat × String)) : Ends config (.frame (.close reason)) .peerClosed
  | finished : Ends config .endOfStream .peerClosed
  | failed (reason : String) : Ends config (.failure reason) (.transport reason)
  | tooLarge {a : Arrival} {bytes : List UInt8} (data : a.data? = some bytes)
      (large : config.maxMessageSize < bytes.length) : Ends config a (.frameTooLarge bytes.length)
  | malformed {a : Arrival} {bytes : List UInt8} {report : Json.Report} (data : a.data? = some bytes)
      (fits : bytes.length ≤ config.maxMessageSize)
      (refused : Wire.Inbound.decode bytes = .error report) : Ends config a (.malformed report.message)

theorem judge_of_data {bytes : List UInt8} (data : a.data? = some bytes) :
    judge config a = judgePayload config bytes := by
  cases a with
  | frame f => cases f <;> cases data <;> rfl
  | failure => cases data
  | endOfStream => cases data

/-- What carries no data is a sign, or it ends the pump. -/
theorem judge_of_no_data (config : ConnectionConfig) (none : a.data? = none) :
    a.isSign = true ∧ judge config a = .alive ∨
      ∃ why, Ends config a why ∧ judge config a = .stop why := by
  cases a with
  | frame f =>
    cases f with
    | text => cases none
    | binary => cases none
    | ping => exact .inl ⟨rfl, rfl⟩
    | pong => exact .inl ⟨rfl, rfl⟩
    | close reason => exact .inr ⟨_, .closed reason, rfl⟩
  | failure reason => exact .inr ⟨_, .failed reason, rfl⟩
  | endOfStream => exact .inr ⟨_, .finished, rfl⟩

/-- All that a pump can make of an arrival. -/
inductive Judged (config : ConnectionConfig) (a : Arrival) : Verdict → Prop
  | stop {why : ReadEnd} (ends : Ends config a why) : Judged config a (.stop why)
  | alive (sign : a.isSign = true) : Judged config a .alive
  | relay {bytes : List UInt8} {m : Wire.Inbound} (data : a.data? = some bytes)
      (decoded : Wire.Inbound.decode bytes = .ok m) : Judged config a (.relay m)

theorem judged (config : ConnectionConfig) (a : Arrival) : Judged config a (judge config a) := by
  cases data : a.data? with
  | none =>
    obtain ⟨sign, same⟩ | ⟨why, ends, same⟩ := judge_of_no_data config data
    · exact same ▸ .alive sign
    · exact same ▸ .stop ends
  | some bytes =>
    rw [judge_of_data data, judgePayload]
    split_ifs with large
    · exact .stop (.tooLarge data large)
    · cases decoded : Wire.Inbound.decode bytes with
      | ok m => exact .relay data decoded
      | error report => exact .stop (.malformed data (Nat.le_of_not_lt large) decoded)

/-- An arrival that ends pumps is judged to. -/
theorem Ends.judge (ends : Ends config a why) : judge config a = .stop why := by
  cases ends with
  | closed | finished | failed => rfl
  | tooLarge data large => rw [judge_of_data data, judgePayload, if_pos large]
  | malformed data fits refused =>
    rw [judge_of_data data, judgePayload, if_neg (Nat.not_lt.mpr fits), refused]

/-! ### Arrivals that are taken -/

/-- The deadline after some arrivals: a wait after the last sign among them, or what it was before. -/
def deadlineAfter (config : ConnectionConfig) (deadline : Nat) (taken : List (Nat × Arrival)) : Nat :=
  ((taken.filter (·.2.isSign)).getLast?.map (·.1 + config.pongWait)).getD deadline

theorem deadlineAfter_cons (config : ConnectionConfig) (deadline : Nat) (x : Nat × Arrival)
    (taken : List (Nat × Arrival)) : deadlineAfter config deadline (x :: taken) =
      deadlineAfter config (if x.2.isSign then x.1 + config.pongWait else deadline) taken := by
  cases sign : x.2.isSign with
  | false => simp [deadlineAfter, sign]
  | true =>
    have first : (x :: taken).filter (·.2.isSign) = x :: taken.filter (·.2.isSign) :=
      List.filter_cons_of_pos sign
    rw [deadlineAfter, first, List.getLast?_cons, deadlineAfter]
    cases (taken.filter (·.2.isSign)).getLast? <;> rfl

/-- The time of the last of some arrivals, or the time before. -/
def timeAfter (now : Nat) (taken : List (Nat × Arrival)) : Nat :=
  (taken.getLast?.map (·.1)).getD now

theorem timeAfter_cons (now : Nat) (x : Nat × Arrival) (taken : List (Nat × Arrival)) :
    timeAfter now (x :: taken) = timeAfter x.1 taken := by
  rw [timeAfter, List.getLast?_cons, timeAfter]
  cases taken.getLast? <;> rfl

/-- Arrivals that a pump takes and goes on: each comes no later than the deadline that those before
it make, and none ends the pump. -/
def Taken (config : ConnectionConfig) (deadline : Nat) (taken : List (Nat × Arrival)) : Prop :=
  ∀ before time a after, taken = before ++ (time, a) :: after →
    time ≤ deadlineAfter config deadline before ∧ ∀ why, ¬ Ends config a why

theorem Taken.nil {deadline : Nat} : Taken config deadline [] := by
  intro before time a after split
  simp at split

theorem Taken.cons {deadline time : Nat} {taken : List (Nat × Arrival)} (inTime : time ≤ deadline)
    (goesOn : ∀ why, ¬ Ends config a why)
    (rest : Taken config (if a.isSign then time + config.pongWait else deadline) taken) :
    Taken config deadline ((time, a) :: taken) := by
  intro before time' a' after split
  cases before with
  | nil =>
    cases split
    exact ⟨inTime, goesOn⟩
  | cons x before =>
    cases split
    rw [deadlineAfter_cons]
    exact rest before time' a' after rfl

/-- How and when a pump ends, given the time of the last arrival that it took, its deadline and the
arrivals that it did not take. -/
inductive Finish (config : ConnectionConfig) (clock : Option Instant) (tail : Tail) (now deadline : Nat) :
    List (Nat × Arrival) → ReaderExit → Nat → Prop
  | silence (silent : tail = .silent) :
      Finish config clock tail now deadline [] (.ended .deadlineExceeded) deadline
  | late {time : Nat} {a : Arrival} {rest : List (Nat × Arrival)} (late : deadline < time) :
      Finish config clock tail now deadline ((time, a) :: rest) (.ended .deadlineExceeded) deadline
  | finished (ends : tail = .ends) : Finish config clock tail now deadline [] (.ended .peerClosed) now
  | stopped {time : Nat} {a : Arrival} {rest : List (Nat × Arrival)} {why : ReadEnd}
      (inTime : time ≤ deadline) (ends : Ends config a why) :
      Finish config clock tail now deadline ((time, a) :: rest) (.ended why) time
  | crashed {time : Nat} {a : Arrival} {rest : List (Nat × Arrival)} {bytes : List UInt8}
      {m : Wire.Inbound} (noTime : clock = none) (inTime : time ≤ deadline)
      (data : a.data? = some bytes) (decoded : Wire.Inbound.decode bytes = .ok m)
      (free : m.kind ≠ .roomClosed) :
      Finish config clock tail now deadline ((time, a) :: rest) .crashed time

variable {s : Server} {room : RoomId} {hub : Hub} {time deadline : Nat}

/-- All that a pump can do with an arrival while the hub of its room runs. -/
inductive Takes (config : ConnectionConfig) (room : RoomId) (sender : Identity) (time deadline : Nat)
    (s : Server) (a : Arrival) : Option ReaderExit × Nat × Server → Prop
  | ends {why : ReadEnd} (ends : Ends config a why) :
      Takes config room sender time deadline s a (some (.ended why), deadline, s)
  | goesOn {t : Server} (goesOn : ∀ why, ¬ Ends config a why)
      (spread : s.Spreads room (a.said sender room s.clock) t) :
      Takes config room sender time deadline s a
        (none, if a.isSign then time + config.pongWait else deadline, t)
  | crashed {bytes : List UInt8} {m : Wire.Inbound} (noTime : s.clock = none)
      (data : a.data? = some bytes) (decoded : Wire.Inbound.decode bytes = .ok m)
      (free : m.kind ≠ .roomClosed) :
      Takes config room sender time deadline s a (some .crashed, deadline, s)

theorem isSign_of_data {bytes : List UInt8} (data : a.data? = some bytes) : a.isSign = false := by
  cases a with
  | frame f => cases f <;> cases data <;> rfl
  | failure => cases data
  | endOfStream => cases data

theorem said_of_data {bytes : List UInt8} {m : Wire.Inbound} (data : a.data? = some bytes)
    (decoded : Wire.Inbound.decode bytes = .ok m) (sender : Identity) (room : RoomId)
    (clock : Option Instant) :
    a.said sender room clock =
      if m.kind = .roomClosed then []
      else clock.toList.map (.ofClient m.kind m.content sender room ·) := by
  simp only [Arrival.said, data, Option.bind_some, decoded, Except.toOption, Message.ofClient]
  cases clock <;> simp

theorem said_of_isSign (sign : a.isSign = true) (sender : Identity) (room : RoomId)
    (clock : Option Instant) : a.said sender room clock = [] := by
  have none : a.data? = none := by
    cases data : a.data? with
    | none => rfl
    | some bytes => cases sign.symm.trans (isSign_of_data data)
  simp [Arrival.said, none]

/-- A message that is decoded leaves the deadline alone.  It is dropped or spread. -/
theorem takes_relay (known : s.hub? room = some hub) (running : hub.running = true)
    (sender : Identity) {bytes : List UInt8} {m : Wire.Inbound} (data : a.data? = some bytes)
    (decoded : Wire.Inbound.decode bytes = .ok m) (goesOn : ∀ why, ¬ Ends config a why) :
    Takes config room sender time deadline s a
      ((relay s false room sender m).1, deadline, (relay s false room sender m).2) := by
  have said := said_of_data data decoded sender room s.clock
  have spoke {t : Server} (spread : s.Spreads room (a.said sender room s.clock) t) :
      Takes config room sender time deadline s a (none, deadline, t) := by
    have taken : Takes config room sender time deadline s a (none, _, t) := .goesOn goesOn spread
    rwa [isSign_of_data data, if_neg Bool.false_ne_true] at taken
  by_cases reserved : m.kind = .roomClosed
  · have dropped : relay s false room sender m =
        (none, s.report [.frameDropped m.kind sender.userId]) := by
      simp [relay, Server.relay, reserved]
    rw [if_pos reserved] at said
    rw [dropped]
    exact spoke (said ▸ .report s (by simp [Notice.isChatNotSaved]))
  · rw [if_neg reserved] at said
    cases shown : s.clock with
    | none =>
      have crashed : relay s false room sender m = (some .crashed, s) := by
        simp [relay, Server.relay, reserved, shown]
      rw [crashed]
      exact .crashed shown data decoded reserved
    | some clock =>
      obtain ⟨t, relayed, spread⟩ :=
        Server.relay_spreads known running shown sender reserved m.content
      have handed : relay s false room sender m = (none, t) := by
        simp [relay, relayed]
      rw [shown] at said
      rw [handed]
      exact spoke (shown ▸ said ▸ spread)

theorem takes_take (known : s.hub? room = some hub) (running : hub.running = true)
    (sender : Identity) (config : ConnectionConfig) (time deadline : Nat) (a : Arrival) :
    Takes config room sender time deadline s a
      (take config false room sender time deadline s a) := by
  have goesOn {verdict : Verdict} (same : judge config a = verdict)
      (other : ∀ why, verdict ≠ .stop why) (why : ReadEnd) : ¬ Ends config a why :=
    fun ends => other why (same.symm.trans ends.judge)
  have verdict := judged config a
  rw [take]
  generalize same : judge config a = v at verdict
  cases verdict with
  | stop ends => exact .ends ends
  | alive sign =>
    have silent := said_of_isSign sign sender room s.clock
    have spread : s.Spreads room (a.said sender room s.clock) s := silent ▸ .refl s
    have taken : Takes config room sender time deadline s a (none, _, s) :=
      .goesOn (goesOn same nofun) spread
    rwa [if_pos sign] at taken
  | relay data decoded => exact takes_relay known running sender data decoded (goesOn same nofun)

/-! ### Whole streams -/

/-- What a pump has done by its end: it took the arrivals up to one of the ends, and spread what they
said. -/
structure Reads (config : ConnectionConfig) (room : RoomId) (sender : Identity) (tail : Tail)
    (now deadline : Nat) (s : Server) (taken rest : List (Nat × Arrival)) (outcome : Outcome) :
    Prop where
  inTime : Taken config deadline taken
  finish : Finish config s.clock tail (timeAfter now taken) (deadlineAfter config deadline taken) rest
    outcome.exit outcome.time
  spread : s.Spreads room (taken.flatMap (·.2.said sender room s.clock)) outcome.server

theorem exists_reads (config : ConnectionConfig) (sender : Identity) (tail : Tail)
    (arrivals : List (Nat × Arrival)) (known : s.hub? room = some hub) (running : hub.running = true)
    (now deadline : Nat) :
    ∃ taken rest, arrivals = taken ++ rest ∧ Reads config room sender tail now deadline s taken rest
      (run config false room sender tail now deadline s arrivals) := by
  -- On the arrivals, each of which leaves a server, a hub and a deadline of its own to the next.
  induction arrivals generalizing s hub now deadline with
  | nil =>
    cases tail with
    | ends => exact ⟨[], [], rfl, .nil, .finished rfl, .refl s⟩
    | silent => exact ⟨[], [], rfl, .nil, .silence rfl, .refl s⟩
  | cons x arrivals ih =>
    obtain ⟨time, a⟩ := x
    rw [run]
    split_ifs with late
    · exact ⟨[], (time, a) :: arrivals, rfl, .nil, .late late, .refl s⟩
    · have inTime := Nat.le_of_not_lt late
      have takes := takes_take known running sender config time deadline a
      generalize take config false room sender time deadline s a = result at takes
      cases takes with
      | ends ends => exact ⟨[], (time, a) :: arrivals, rfl, .nil, .stopped inTime ends, .refl s⟩
      | crashed noTime data decoded free =>
        exact ⟨[], (time, a) :: arrivals, rfl, .nil, .crashed noTime inTime data decoded free, .refl s⟩
      | @goesOn t goesOn spread =>
        have known' := spread.hub? known running
        obtain ⟨taken, rest, rfl, reads⟩ := ih known' ((Hub.running_run hub _).2.trans running) time
          (if a.isSign then time + config.pongWait else deadline)
        refine ⟨(time, a) :: taken, rest, rfl, .cons inTime goesOn reads.inTime, ?_, ?_⟩
        · rw [timeAfter_cons, deadlineAfter_cons, ← spread.clock]
          exact reads.finish
        · rw [List.flatMap_cons]
          exact spread.trans (spread.clock ▸ reads.spread)

/-- A pump takes arrivals one after the other while each comes by the deadline, which is a wait after
the start or after the last ping or pong, and none of them ends it.  It ends at the deadline if
nothing comes by then, with the stream, or with the first arrival that ends pumps (or, on a server
whose clock shows no time, at the first message that it would have to stamp).  What was said in the
arrivals that it took, and nothing else, met the room's hub in order; the chat messages of that, and
nothing else, were handed to the store. -/
theorem reading_law (config : ConnectionConfig) (sender : Identity) (tail : Tail) (start : Nat)
    (arrivals : List (Nat × Arrival)) (known : s.hub? room = some hub)
    (running : hub.running = true) :
    let outcome := run config false room sender tail start (start + config.pongWait) s arrivals
    ∃ taken rest, arrivals = taken ++ rest ∧
      (∀ before time a after, taken = before ++ (time, a) :: after →
        time ≤ deadlineAfter config (start + config.pongWait) before ∧
          ∀ why, ¬ Ends config a why) ∧
      Finish config s.clock tail (timeAfter start taken)
        (deadlineAfter config (start + config.pongWait) taken) rest outcome.exit outcome.time ∧
      let said := taken.flatMap (·.2.said sender room s.clock)
      outcome.server.hub? room = some (hub.runInOrder (said.map .broadcast)) ∧
      (∀ other, other ≠ room → outcome.server.hub? other = s.hub? other) ∧
      outcome.server.store = (said.filter (·.isChat)).foldl ChatStore.keep s.store ∧
      outcome.server.journal.filter (·.isChatNotSaved) =
        s.journal.filter (·.isChatNotSaved) ++ s.store.refusals (said.filter (·.isChat)) := by
  intro outcome
  obtain ⟨taken, rest, split, reads⟩ :=
    exists_reads config sender tail arrivals known running start (start + config.pongWait)
  have spread := reads.spread
  exact ⟨taken, rest, split, reads.inTime, reads.finish, spread.hub? known running,
    fun _ elsewhere => spread.other elsewhere, spread.store, spread.unsaved⟩

open Sample in
/-- A chat message is spread and a reserved kind is dropped; a ping moves the deadline, at which an
edit is still taken and after which a pong is not. -/
theorem reading_law_late :
    let config : ConnectionConfig := { pongWait := 10, maxMessageSize := 40 }
    let s : Server := { failing with clock := some .epoch, hubs := [Hub.start studio] }
    let arrivals := [
      (2, .frame (.text "\x7b\"type\":\"chat\",\"content\":\"one\"\x7d")),
      (9, .frame (.text "\x7b\"type\":\"room_closed\"\x7d")),
      (10, .frame (.ping [])),
      (20, .frame (.binary (Text.Utf8.ofText "\x7b\"type\":\"edit\"\x7d"))),
      (21, .frame (.pong []))]
    let outcome := run config false studio ann .silent 0 (0 + config.pongWait) s arrivals
    outcome.exit = .ended .deadlineExceeded ∧ outcome.time = 20 ∧
    ∃ taken rest, arrivals = taken ++ rest ∧
      (∀ before time a after, taken = before ++ (time, a) :: after →
        time ≤ deadlineAfter config (0 + config.pongWait) before ∧ ∀ why, ¬ Ends config a why) ∧
      Finish config s.clock .silent (timeAfter 0 taken)
        (deadlineAfter config (0 + config.pongWait) taken) rest outcome.exit outcome.time ∧
      let said := taken.flatMap (·.2.said ann studio s.clock)
      outcome.server.hub? studio = some ((Hub.start studio).runInOrder (said.map .broadcast)) ∧
      (∀ other, other ≠ studio → outcome.server.hub? other = s.hub? other) ∧
      outcome.server.store = (said.filter (·.isChat)).foldl ChatStore.keep s.store ∧
      outcome.server.journal.filter (·.isChatNotSaved) =
        s.journal.filter (·.isChatNotSaved) ++ s.store.refusals (said.filter (·.isChat)) := by
  intro config s arrivals outcome
  exact ⟨by decide +kernel, by decide +kernel,
    reading_law config ann .silent 0 arrivals (show s.hub? studio = some (Hub.start studio) from rfl)
      rfl⟩

end ReadPump
end RoomHub
