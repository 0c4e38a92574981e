import Mathlib.Data.List.Chain
import RoomHub.Proofs.Connection.Course

/-!
# When pings are begun

A strike of the ticker is taken no earlier than it is due and moves the next one by a period at
least, counted from when it was due or, if it was taken late, from when it was taken (`Spaced`).
Hence `pings_law`: pings come neither early nor in bursts, and punctually if nothing is in their way.
-/

namespace RoomHub.WritePump.Run

/-- The times at which pings are begun. -/
def pingTimes (starts : List (Nat × Frame)) : List Nat := (starts.filter (·.2.isPing)).map (·.1)

variable {config : ConnectionConfig} {sink : Sink} {r r' : Run} {time began period : Nat}
  {starts : List (Nat × Frame)} {start : Option (Nat × Frame)} {pings : List Nat}

theorem pingTimes_concat (starts : List (Nat × Frame)) (time : Nat) (frame : Frame) :
    pingTimes (starts ++ [(time, frame)]) =
      pingTimes starts ++ if frame.isPing then [time] else [] := by
  cases ping : frame.isPing <;> simp [pingTimes, ping]

/-! ### Neither early nor in bursts -/

/-- Pings that are no earlier than their number allows, and are not closer to each other than a
period less the slack; the next one, which the ticker is due to give, will not be either. -/
structure Spaced (period began : Nat) (pings : List Nat) (t : Ticker) : Prop where
  every : t.period = period
  early : ∀ k time, pings[k]? = some time → began + (k + 1) * period ≤ time
  next : began + (pings.length + 1) * period ≤ t.due
  apart : pings.IsChain fun time later => time + period ≤ later + Ticker.slack
  last : ∀ time ∈ pings.getLast?, time + period ≤ t.due + Ticker.slack

theorem spaced_start (period began : Nat) : Spaced period began [] (Ticker.start began period) where
  every := rfl
  early := nofun
  next := by simp [Ticker.start]
  apart := .nil
  last := nofun

/-- The ticker is moved by a period from when it was due at least, and from the ping but for the
slack. -/
theorem Spaced.take {t : Ticker} (spaced : Spaced period began pings t) (struck : t.due ≤ time) :
    Spaced period began (pings ++ [time]) (t.take time) := by
  have next := spaced.next
  have moved : t.due + period ≤ (t.take time).due ∧
      time + period ≤ (t.take time).due + Ticker.slack := by
    simp only [Ticker.take, spaced.every]
    split_ifs <;> omega
  refine ⟨spaced.every, ?_, ?_, ?_, ?_⟩
  · intro k begun same
    rcases Nat.lt_or_ge k pings.length with before | behind
    · rw [List.getElem?_append_left before] at same
      exact spaced.early k begun same
    · rw [List.getElem?_append_right behind] at same
      rw [List.getElem?_singleton] at same
      split_ifs at same with first
      obtain rfl : time = begun := Option.some.inj same
      obtain rfl : k = pings.length := by omega
      exact next.trans struck
  · rw [List.length_append, List.length_singleton, Nat.succ_mul]
    omega
  · refine List.isChain_append.mpr ⟨spaced.apart, .singleton _, ?_⟩
    intro before last later first
    obtain rfl : time = later := by simpa using first
    have := spaced.last before last
    omega
  · intro begun last
    rw [List.getLast?_concat] at last
    obtain rfl : time = begun := by simpa using last
    exact moved.2

theorem Spaced.step (spaced : Spaced period began (pingTimes starts) r.pump.ticker)
    (step : Step config sink r time start r') :
    Spaced period began (pingTimes (starts ++ start.toList)) r'.pump.ticker := by
  cases step with
  | closed => simpa using spaced
  | wrote => simpa using spaced
  | failed => simpa using spaced
  | message _ _ _ _ _ frame =>
    rw [Option.toList_some, pingTimes_concat, frame]
    simpa [Frame.isPing] using spaced
  | closing _ _ _ _ _ _ frame =>
    rw [Option.toList_some, pingTimes_concat, frame]
    simpa [Frame.isPing] using spaced
  | ping _ _ struck frame =>
    rw [Option.toList_some, pingTimes_concat, frame]
    exact spaced.take (struck ▸ Nat.le_max_right ..)

/-! ### Punctual -/

/-- The first so many pings, each at its time. -/
def punctual (period began count : Nat) : List (Nat × Frame) :=
  (List.range count).map fun k => (began + (k + 1) * period, .ping [])

theorem punctual_succ (period began count : Nat) : punctual period began (count + 1) =
    punctual period began count ++ [(began + (count + 1) * period, .ping [])] := by
  rw [punctual, List.range_succ, List.map_append]
  rfl

/-- A pump that nothing comes to, with a sink that takes everything at once, after so many moves: it
waits for the ticker, or it has just begun a ping. -/
inductive Quiet (period began : Nat) : Nat → Run → Prop
  | waiting {r : Run} (k : Nat) (running : r.pump.exit = none) (nothing : r.supply = none)
      (idle : r.pump.current = none) (every : r.pump.ticker.period = period)
      (due : r.pump.ticker.due = began + (k + 1) * period) (early : r.now ≤ r.pump.ticker.due)
      (written : r.written = punctual period began k) : Quiet period began (2 * k) r
  | pinging {r : Run} (k : Nat) (running : r.pump.exit = none) (nothing : r.supply = none)
      (writing : r.pump.current = some ⟨.ping [], r.now, .ok ()⟩)
      (every : r.pump.ticker.period = period) (now : r.now = began + (k + 1) * period)
      (due : r.pump.ticker.due = r.now + period) (written : r.written = punctual period began k) :
      Quiet period began (2 * k + 1) r

theorem Quiet.written {moves : Nat} (quiet : Quiet period began moves r) :
    r.written = punctual period began (moves / 2) := by
  cases quiet with
  | waiting k _ _ _ _ _ _ written => rw [written, Nat.mul_div_cancel_left k Nat.two_pos]
  | pinging k _ _ _ _ _ _ written =>
    rw [written, show (2 * k + 1) / 2 = k by omega]

/-- A strike that is taken when it is due does not move the next one. -/
theorem take_due (t : Ticker) : (t.take t.due).due = t.due + t.period := by
  simp [Ticker.take]

theorem ensues_instant {writeWait ended : Nat} {result : Except WriteEnd Unit}
    (ensues : Ensues writeWait time (.lasts 0 none) ended result) :
    ended = time ∧ result = .ok () := by
  cases ensues with
  | written => exact ⟨rfl, rfl⟩
  | slow beyond => cases beyond

theorem Quiet.step {moves : Nat} (quiet : Quiet period began moves r)
    (step : Step config .instant r time start r') : Quiet period began (moves + 1) r' := by
  cases quiet with
  | waiting k running nothing idle every due early written =>
    cases step with
    | closed _ writing => cases idle.symm.trans writing
    | wrote _ writing => cases idle.symm.trans writing
    | failed _ writing => cases idle.symm.trans writing
    | message _ _ _ waiting =>
      rw [Run.supply, waiting] at nothing
      cases nothing
    | closing _ _ _ drained closes =>
      rw [Run.supply, drained, closes] at nothing
      cases nothing
    | @ping w _ _ struck frame ensues =>
      obtain ⟨_, _, _⟩ := w
      obtain rfl : time = r.pump.ticker.due := struck.trans (Nat.max_eq_right early)
      obtain ⟨rfl, rfl⟩ := ensues_instant ensues
      subst frame
      exact .pinging k running nothing rfl every due
        ((take_due r.pump.ticker).trans (congrArg _ every)) written
  | pinging k running nothing writing every now due written =>
    cases step with
    | message _ idle => cases idle.symm.trans writing
    | closing _ idle => cases idle.symm.trans writing
    | ping _ idle => cases idle.symm.trans writing
    | closed _ same _ closing =>
      cases same.symm.trans writing
      cases closing
    | failed _ same _ _ result =>
      cases same.symm.trans writing
      cases result
    | wrote _ same ended =>
      cases same.symm.trans writing
      obtain rfl : time = r.now := ended.trans (Nat.max_self _)
      refine .waiting (k + 1) running nothing rfl every ?_ (due ▸ Nat.le_add_right ..) ?_
      · rw [due, now, Nat.add_assoc, ← Nat.succ_mul]
      · rw [punctual_succ, ← written, ← now]

theorem Quiet.after {moves : Nat} {course : List (Nat × Task)} (quiet : Quiet period began moves r)
    (allowed : r.allowed config .instant course = true) :
    Quiet period began (moves + course.length) (r.after config .instant course) := by
  induction course generalizing moves r with
  | nil => exact quiet
  | cons move course ih =>
    obtain ⟨time, task⟩ := move
    obtain ⟨allows, allowed⟩ := Bool.and_eq_true_iff.mp allowed
    have next := ih (quiet.step (step_of_allows config .instant allows)) allowed
    rwa [Nat.add_assoc, Nat.add_comm 1] at next

/-- Such a pump always has a move. -/
theorem Quiet.exists_allows {moves : Nat} (quiet : Quiet period began moves r) :
    ∃ time task, r.allows time task = true := by
  cases quiet with
  | waiting k running nothing idle =>
    exact ⟨max r.now r.pump.ticker.due, .tick, by
      simp [allows, Run.readyAt, WritePump.readyAt, running, idle, nothing]⟩
  | pinging k running nothing writing =>
    exact ⟨r.now, .settle, by simp [allows, Run.readyAt, WritePump.readyAt, running, writing]⟩

theorem Quiet.exists_course {moves : Nat} (quiet : Quiet period began moves r) (count : Nat) :
    ∃ course, course.length = count ∧ r.allowed config .instant course = true := by
  induction count generalizing moves r with
  | zero => exact ⟨[], rfl, rfl⟩
  | succ count ih =>
    obtain ⟨time, task, allows⟩ := quiet.exists_allows
    obtain ⟨course, length, allowed⟩ := ih (quiet.step (step_of_allows config .instant allows))
    exact ⟨(time, task) :: course, congrArg (· + 1) length,
      Bool.and_eq_true_iff.mpr ⟨allows, allowed⟩⟩

/-- Pings come neither early nor in bursts, whatever else is written and however long it takes: the
ping of each number is begun no earlier than so many periods after the start, and no ping is begun
earlier than a period less five milliseconds after the one before.  A pump that has nothing else to
write and whose sink takes everything at once never stops, and writes each ping at its time. -/
theorem pings_law (positive : 0 < config.pingPeriod) (began : Nat) :
    (∀ (sink : Sink) (arrivals : List (Nat × Message)) (closesAt : Option Nat)
        (course : List (Nat × Task)),
      (Run.start config began arrivals closesAt).allowed config sink course = true →
      let pings := pingTimes ((Run.start config began arrivals closesAt).starts config sink course)
      (∀ k time, pings[k]? = some time → began + (k + 1) * config.pingPeriod ≤ time) ∧
        pings.IsChain fun time later => time + config.pingPeriod ≤ later + 5) ∧
    (∀ course, (Run.start config began [] none).allowed config .instant course = true →
      ((Run.start config began [] none).after config .instant course).written =
        (List.range (course.length / 2)).map fun k =>
          (began + (k + 1) * config.pingPeriod, .ping [])) ∧
    ∀ count, ∃ course, course.length = count ∧
      (Run.start config began [] none).allowed config .instant course = true := by
  have quiet : Quiet config.pingPeriod began 0 (Run.start config began [] none) :=
    .waiting 0 (if_neg (Nat.ne_of_gt positive)) rfl rfl rfl
      (by simp [Run.start, WritePump.start, Ticker.start]) (Nat.le_add_right ..) rfl
  refine ⟨fun sink arrivals closesAt course allowed => ?_, fun course allowed => ?_,
    quiet.exists_course⟩
  · have begins : Spaced config.pingPeriod began (pingTimes [])
        (Run.start config began arrivals closesAt).pump.ticker := spaced_start ..
    have spaced := kept_along (P := fun starts r =>
      Spaced config.pingPeriod began (pingTimes starts) r.pump.ticker)
      (fun spaced step => spaced.step step) begins allowed
    exact ⟨spaced.early, spaced.apart⟩
  · have written := (quiet.after allowed).written
    rwa [Nat.zero_add] at written

/-- A first ping that takes seventeen milliseconds puts the second one off, and that the third. -/
theorem pings_law_late :
    let config : ConnectionConfig := { pingPeriod := 10, writeWait := 30 }
    let sink : Sink := fun n => .lasts (if n = 0 then 17 else 0) none
    let course := [(10, .tick), (27, .settle), (27, .tick), (27, .settle), (37, .tick)]
    let pings := pingTimes ((Run.start config 0 [] none).starts config sink course)
    pings = [10, 27, 37] ∧
      (∀ k time, pings[k]? = some time → 0 + (k + 1) * config.pingPeriod ≤ time) ∧
      pings.IsChain fun time later => time + config.pingPeriod ≤ later + 5 := by
  intro config sink course pings
  have law := (pings_law (by decide : 0 < config.pingPeriod) 0).1 sink [] none course (by decide +kernel)
  exact ⟨by decide +kernel, law⟩

end RoomHub.WritePump.Run
