import Mathlib.Data.List.Infix
import RoomHub.Proofs.Connection.Course
import RoomHub.Proofs.Sample
import RoomHub.Proofs.Wire.RoundTrip

/-!
# What a write pump writes

Two invariants hold along every course of a write pump.  What is written is what was begun, but for
a write that is in progress or at which the pump ended (`Stage`).  What is begun, pings left out, is
the messages in the order of the outbox and then, once the outbox is given up and empty, a closing
frame (`Drawn`).  `writing_law` puts the two together.
-/

namespace RoomHub

/-- The frame that carries a message. -/
def Frame.ofMessage (m : Message) : Frame := .text (Wire.messageText m)

namespace WritePump.Run

/-- The frames that are completely written. -/
def frames (r : Run) : List Frame := r.written.map (·.2)

/-- Frames without the pings among them. -/
def withoutPings (frames : List Frame) : List Frame := frames.filter (!·.isPing)

/-- Whether none of the writes is one of a closing frame. -/
def Open (starts : List (Nat × Frame)) : Prop := ∀ x ∈ starts, x.2.isClose = false

variable {config : ConnectionConfig} {sink : Sink} {r r' : Run} {time : Nat}
  {starts before : List (Nat × Frame)} {start : Option (Nat × Frame)}

theorem Open.concat (opened : Open starts) {frame : Frame} (other : frame.isClose = false) :
    Open (starts ++ [(time, frame)]) := by
  intro x mem
  rcases List.mem_append.mp mem with mem | mem
  · exact opened x mem
  · rw [List.mem_singleton.mp mem]
    exact other

/-! ### What is written is what was begun -/

/-- How far a pump has come with the writes that it has begun: nothing is in progress, or the last
one is, or the pump ended with it. -/
inductive Stage (config : ConnectionConfig) (sink : Sink) : List (Nat × Frame) → Run → Prop
  | idle {starts : List (Nat × Frame)} {r : Run} (running : r.pump.exit = none)
      (idle : r.pump.current = none) (opened : Open starts) (counted : r.pump.begun = starts.length)
      (written : r.frames = starts.map (·.2)) : Stage config sink starts r
  | writing {starts : List (Nat × Frame)} {r : Run} {w : Writing} (running : r.pump.exit = none)
      (writing : r.pump.current = some w) (opened : Open starts)
      (counted : r.pump.begun = starts.length + 1) (written : r.frames = starts.map (·.2))
      (ensues : Ensues config.writeWait r.now (sink starts.length) w.endsAt w.result) :
      Stage config sink (starts ++ [(r.now, w.frame)]) r
  | closed {starts : List (Nat × Frame)} {r : Run} {begun : Nat} {reason : Option (Nat × String)}
      (ended : r.pump.exit = some (.ended .queueClosed)) (opened : Open starts)
      (written : r.frames = starts.map (·.2) ∨ r.frames = starts.map (·.2) ++ [.close reason]) :
      Stage config sink (starts ++ [(begun, .close reason)]) r
  | failed {starts : List (Nat × Frame)} {r : Run} {begun : Nat} {frame : Frame} {why : WriteEnd}
      (ended : r.pump.exit = some (.ended why)) (opened : Open starts)
      (other : frame.isClose = false) (written : r.frames = starts.map (·.2))
      (ensues : Ensues config.writeWait begun (sink starts.length) r.now (.error why)) :
      Stage config sink (starts ++ [(begun, frame)]) r

theorem Stage.of_idle (stage : Stage config sink starts r) (running : r.pump.exit = none)
    (idle : r.pump.current = none) :
    Open starts ∧ r.pump.begun = starts.length ∧ r.frames = starts.map (·.2) := by
  cases stage with
  | idle _ _ opened counted written => exact ⟨opened, counted, written⟩
  | writing _ writing => cases idle.symm.trans writing
  | closed ended => cases running.symm.trans ended
  | failed ended => cases running.symm.trans ended

theorem Stage.of_writing (stage : Stage config sink starts r) (running : r.pump.exit = none)
    {w : Writing} (writing : r.pump.current = some w) :
    ∃ before, starts = before ++ [(r.now, w.frame)] ∧ Open before ∧
      r.pump.begun = before.length + 1 ∧ r.frames = before.map (·.2) ∧
      Ensues config.writeWait r.now (sink before.length) w.endsAt w.result := by
  cases stage with
  | idle _ idle => cases idle.symm.trans writing
  | writing _ same opened counted written ensues =>
    cases same.symm.trans writing
    exact ⟨_, rfl, opened, counted, written, ensues⟩
  | closed ended => cases running.symm.trans ended
  | failed ended => cases running.symm.trans ended

/-- A write that is begun while nothing is in progress is the one in progress. -/
theorem Stage.begun {w : Writing} {count : Nat} (running : r.pump.exit = none)
    (writing : r.pump.current = some w) (now : r.now = time) (opened : Open starts)
    (counted : count = starts.length) (next : r.pump.begun = count + 1)
    (written : r.frames = starts.map (·.2))
    (ensues : Ensues config.writeWait time (sink count) w.endsAt w.result) :
    Stage config sink (starts ++ (some (time, w.frame)).toList) r := by
  subst now counted
  exact .writing running writing opened next written ensues

/-- A write that is in progress is over when it ends, since nothing else can be done before. -/
theorem Stage.step (stage : Stage config sink starts r) (step : Step config sink r time start r') :
    Stage config sink (starts ++ start.toList) r' := by
  cases step with
  | @closed w reason running writing ended closing written atMost =>
    obtain ⟨before, rfl, opened, counted, frames, ensues⟩ := stage.of_writing running writing
    rw [Option.toList_none, List.append_nil, closing]
    refine .closed rfl opened ?_
    simp only [Run.frames, List.map_append] at frames ⊢
    rcases atMost with rfl | rfl
    · exact .inl (by simpa using frames)
    · exact .inr (by rw [frames]; rfl)
  | @wrote w running writing ended other result =>
    obtain ⟨before, rfl, opened, counted, frames, ensues⟩ := stage.of_writing running writing
    rw [Option.toList_none, List.append_nil]
    refine .idle running rfl (opened.concat other) (by simpa using counted) ?_
    simp only [Run.frames, List.map_append] at frames ⊢
    rw [frames]
    rfl
  | @failed w why running writing ended other result =>
    obtain ⟨before, rfl, opened, counted, frames, ensues⟩ := stage.of_writing running writing
    rw [Option.toList_none, List.append_nil]
    -- The pump has not moved since the write began, so it is as late as the write lasts.
    have atEnd : time = w.endsAt := ended.trans (Nat.max_eq_right ensues.le)
    rw [result, ← atEnd] at ensues
    exact .failed rfl opened other frames ensues
  | message running idle forward waiting arrived frame ensues =>
    obtain ⟨opened, counted, frames⟩ := stage.of_idle running idle
    exact .begun running rfl rfl opened counted rfl frames ensues
  | closing running idle forward drained closes given frame ensues =>
    obtain ⟨opened, counted, frames⟩ := stage.of_idle running idle
    exact .begun running rfl rfl opened counted rfl frames ensues
  | ping running idle struck frame ensues =>
    obtain ⟨opened, counted, frames⟩ := stage.of_idle running idle
    exact .begun running rfl rfl opened counted rfl frames ensues

/-! ### What is begun comes from the outbox -/

/-- The writes that a pump has begun, pings left out, are those of the messages that it has taken, and
then perhaps of a closing frame, if the outbox was empty and given up. -/
structure Drawn (queued : List Message) (closesAt : Option Nat) (starts : List (Nat × Frame))
    (r : Run) : Prop where
  closes : r.closesAt = closesAt
  taken : ∃ sent, queued = sent ++ r.arrivals.map (·.2) ∧
    (withoutPings (starts.map (·.2)) = sent.map Frame.ofMessage ∨
      r.arrivals = [] ∧ ∃ before begun given, starts = before ++ [(begun, .close none)] ∧
        closesAt = some given ∧ given ≤ begun ∧
        withoutPings (before.map (·.2)) = sent.map Frame.ofMessage)

variable {queued : List Message} {closesAt : Option Nat}

theorem withoutPings_append (frames later : List Frame) :
    withoutPings (frames ++ later) = withoutPings frames ++ withoutPings later :=
  List.filter_append ..

theorem withoutPings_concat (starts : List (Nat × Frame)) (time : Nat) (frame : Frame) :
    withoutPings ((starts ++ [(time, frame)]).map (·.2)) =
      withoutPings (starts.map (·.2)) ++ if frame.isPing then [] else [frame] := by
  cases ping : frame.isPing <;> simp [withoutPings, ping]

theorem Drawn.of_open (drawn : Drawn queued closesAt starts r) (opened : Open starts) :
    ∃ sent, queued = sent ++ r.arrivals.map (·.2) ∧
      withoutPings (starts.map (·.2)) = sent.map Frame.ofMessage := by
  obtain ⟨sent, split, texts | ⟨-, before, begun, given, rfl, -⟩⟩ := drawn.taken
  · exact ⟨sent, split, texts⟩
  · cases opened (begun, .close none) (List.mem_append_right _ (List.mem_singleton_self _))

theorem Drawn.step (drawn : Drawn queued closesAt starts r) (stage : Stage config sink starts r)
    (step : Step config sink r time start r') :
    Drawn queued closesAt (starts ++ start.toList) r' := by
  cases step with
  | closed => exact ⟨drawn.closes, by simpa using drawn.taken⟩
  | wrote => exact ⟨drawn.closes, by simpa using drawn.taken⟩
  | failed => exact ⟨drawn.closes, by simpa using drawn.taken⟩
  | @message arrives m rest w running idle forward waiting arrived frame ensues =>
    obtain ⟨sent, split, texts⟩ := drawn.of_open (stage.of_idle running idle).1
    rw [waiting, List.map_cons] at split
    refine ⟨drawn.closes, sent ++ [m], by simpa using split, .inl ?_⟩
    rw [Option.toList_some, withoutPings_concat, texts, frame, List.map_append]
    rfl
  | @closing given w running idle forward drained closes reached frame ensues =>
    obtain ⟨sent, split, texts⟩ := drawn.of_open (stage.of_idle running idle).1
    refine ⟨drawn.closes, sent, split, .inr ⟨drained, starts, time, given, ?_, ?_, reached, texts⟩⟩
    · rw [frame]
      rfl
    · exact drawn.closes.symm.trans closes
  | @ping w running idle struck frame ensues =>
    obtain ⟨sent, split, texts⟩ := drawn.of_open (stage.of_idle running idle).1
    refine ⟨drawn.closes, sent, split, .inl ?_⟩
    rw [Option.toList_some, withoutPings_concat, texts, frame]
    exact List.append_nil _

/-! ### Whole courses -/

/-- Both invariants. -/
structure Faithful (config : ConnectionConfig) (sink : Sink) (queued : List Message)
    (closesAt : Option Nat) (starts : List (Nat × Frame)) (r : Run) : Prop where
  stage : Stage config sink starts r
  drawn : Drawn queued closesAt starts r

theorem faithful_after (period : 0 < config.pingPeriod) (now : Nat)
    (arrivals : List (Nat × Message)) (closesAt : Option Nat) {course : List (Nat × Task)}
    (allowed : (Run.start config now arrivals closesAt).allowed config sink course = true) :
    Faithful config sink (arrivals.map (·.2)) closesAt
      ((Run.start config now arrivals closesAt).starts config sink course)
      ((Run.start config now arrivals closesAt).after config sink course) := by
  have running : (Run.start config now arrivals closesAt).pump.exit = none :=
    if_neg (Nat.ne_of_gt period)
  have begins : Faithful config sink (arrivals.map (·.2)) closesAt []
      (Run.start config now arrivals closesAt) :=
    ⟨.idle running rfl nofun rfl rfl, rfl, [], rfl, .inl rfl⟩
  exact kept_along (fun faithful step =>
    ⟨faithful.stage.step step, faithful.drawn.step faithful.stage step⟩) begins allowed

/-- Whatever was begun last, the writes before it are of the first messages. -/
theorem Drawn.texts_before {x : Nat × Frame} (drawn : Drawn queued closesAt (before ++ [x]) r) :
    ∃ sent, sent <+: queued ∧ withoutPings (before.map (·.2)) = sent.map Frame.ofMessage := by
  obtain ⟨sent, split, texts | ⟨-, earlier, begun, given, same, -, -, texts⟩⟩ := drawn.taken
  · rw [withoutPings_concat] at texts
    have front : withoutPings (before.map (·.2)) <+: sent.map Frame.ofMessage :=
      ⟨_, texts⟩
    obtain ⟨first, isPrefix, texts⟩ := List.prefix_map_iff.mp front
    exact ⟨first, isPrefix.trans ⟨_, split.symm⟩, texts⟩
  · obtain ⟨rfl, -⟩ := List.append_inj' same rfl
    exact ⟨sent, ⟨_, split.symm⟩, texts⟩

/-- A closing frame comes after all messages. -/
theorem Drawn.closing {begun : Nat} {reason : Option (Nat × String)}
    (drawn : Drawn queued closesAt (before ++ [(begun, .close reason)]) r) :
    reason = none ∧ withoutPings (before.map (·.2)) = queued.map Frame.ofMessage ∧
      ∃ given, closesAt = some given ∧ given ≤ begun := by
  obtain ⟨sent, split, texts | ⟨drained, earlier, _, given, same, closes, reached, texts⟩⟩ :=
    drawn.taken
  · have mem : Frame.close reason ∈ sent.map Frame.ofMessage := by
      rw [← texts, withoutPings_concat]
      exact List.mem_append_right _ (List.mem_singleton_self _)
    obtain ⟨m, -, impossible⟩ := List.mem_map.mp mem
    cases impossible
  · obtain ⟨rfl, last⟩ := List.append_inj' same rfl
    cases last
    rw [drained, List.map_nil, List.append_nil] at split
    exact ⟨rfl, split ▸ texts, given, closes, reached⟩

/-- Any other frame is a ping or that of a message. -/
theorem Drawn.other {begun : Nat} {frame : Frame}
    (drawn : Drawn queued closesAt (before ++ [(begun, frame)]) r) (other : frame.isClose = false) :
    frame.isPing = true ∨ ∃ m ∈ queued, frame = .ofMessage m := by
  obtain ⟨sent, split, texts | ⟨-, earlier, _, _, same, -⟩⟩ := drawn.taken
  · cases ping : frame.isPing with
    | true => exact .inl rfl
    | false =>
      have mem : frame ∈ sent.map Frame.ofMessage := by
        rw [← texts, withoutPings_concat, ping]
        exact List.mem_append_right _ (List.mem_singleton_self _)
      obtain ⟨m, taken, same⟩ := List.mem_map.mp mem
      exact .inr ⟨m, split ▸ List.mem_append_left _ taken, same.symm⟩
  · cases (List.append_inj' same rfl).2
    cases other

theorem readyAt_of_exit {exit : WriterExit} (exited : r.pump.exit = some exit) (task : Task) :
    r.readyAt task = none := by
  simp only [Run.readyAt, WritePump.readyAt, exited]

theorem Faithful.frames (faithful : Faithful config sink queued closesAt starts r) :
    ∃ sent closing, sent <+: queued ∧
      withoutPings r.frames = sent.map Frame.ofMessage ++ closing ∧
      (closing = [] ∨ closing = [.close none] ∧ sent = queued ∧
        r.frames.getLast? = some (.close none) ∧
        ∃ begun given, starts.getLast? = some (begun, .close none) ∧ closesAt = some given ∧
          given ≤ begun) := by
  obtain ⟨stage, drawn⟩ := faithful
  cases stage with
  | idle _ _ opened _ written =>
    obtain ⟨sent, split, texts⟩ := drawn.of_open opened
    exact ⟨sent, [], ⟨_, split.symm⟩, by rw [written, texts, List.append_nil], .inl rfl⟩
  | writing _ _ _ _ written =>
    obtain ⟨sent, first, texts⟩ := drawn.texts_before
    exact ⟨sent, [], first, by rw [written, texts, List.append_nil], .inl rfl⟩
  | failed _ _ _ written =>
    obtain ⟨sent, first, texts⟩ := drawn.texts_before
    exact ⟨sent, [], first, by rw [written, texts, List.append_nil], .inl rfl⟩
  | @closed before r begun reason _ _ written =>
    obtain ⟨rfl, texts, given, closes, reached⟩ := drawn.closing
    rcases written with written | written
    · exact ⟨queued, [], List.prefix_rfl, by rw [written, texts, List.append_nil], .inl rfl⟩
    · refine ⟨queued, [.close none], List.prefix_rfl, ?_, .inr ⟨rfl, rfl, ?_, begun, given, ?_⟩⟩
      · rw [written, withoutPings_append, texts]
        rfl
      · rw [written, List.getLast?_concat]
      · exact ⟨List.getLast?_concat, closes, reached⟩

theorem Faithful.drained (faithful : Faithful config sink queued closesAt starts r)
    (exited : r.pump.exit = some (.ended .queueClosed)) :
    queued.map Frame.ofMessage <+: withoutPings r.frames := by
  obtain ⟨stage, drawn⟩ := faithful
  cases stage with
  | idle running => cases running.symm.trans exited
  | writing running => cases running.symm.trans exited
  | closed _ _ written =>
    obtain ⟨-, texts, -⟩ := drawn.closing
    rw [← texts]
    rcases written with written | written
    · rw [written]
    · rw [written, withoutPings_append]
      exact List.prefix_append ..
  | failed ended _ _ _ ensues =>
    cases ended.symm.trans exited
    exact absurd rfl ensues.ne_queueClosed

theorem Faithful.broken (faithful : Faithful config sink queued closesAt starts r) {why : WriteEnd}
    (exited : r.pump.exit = some (.ended why)) (notClosed : why ≠ .queueClosed) :
    ∃ before begun frame, starts = before ++ [(begun, frame)] ∧
      (frame.isPing = true ∨ ∃ m ∈ queued, frame = .ofMessage m) ∧
      r.frames = before.map (·.2) ∧ Open starts ∧
      Ensues config.writeWait begun (sink before.length) r.now (.error why) ∧
      (why = .timeout → r.now = begun + config.writeWait) := by
  obtain ⟨stage, drawn⟩ := faithful
  cases stage with
  | idle running => cases running.symm.trans exited
  | writing running => cases running.symm.trans exited
  | closed ended =>
    cases ended.symm.trans exited
    exact absurd rfl notClosed
  | @failed before r begun frame _ ended opened other written ensues =>
    cases ended.symm.trans exited
    refine ⟨before, begun, frame, rfl, drawn.other other, written, opened.concat other, ensues, ?_⟩
    rintro rfl
    exact ensues.eq_of_timeout

theorem Faithful.exit_ne_crashed (faithful : Faithful config sink queued closesAt starts r) :
    r.pump.exit ≠ some .crashed := by
  intro crashed
  cases faithful.stage with
  | idle running => cases running.symm.trans crashed
  | writing running => cases running.symm.trans crashed
  | closed ended => cases ended.symm.trans crashed
  | failed ended => cases ended.symm.trans crashed

/-- The frame of a message is a text that is read as the record of the message. -/
theorem decode_frameOfMessage (m : Message) :
    ∃ text, Frame.ofMessage m = .text text ∧
      Json.decode Wire.Outbound.record.read (Text.Utf8.ofText text) =
        .ok { kind := m.kind, senderId := m.senderId.text, senderName := m.senderName.text
              content := m.content, timestamp := m.timestamp.toMillisText
              roomId := m.roomId.text } := by
  refine ⟨Wire.messageText m, rfl, ?_⟩
  rw [Wire.ofText_messageText]
  exact Json.decode_encode (Wire.reads_outbound (Wire.Outbound.ofMessage m))

/-- What a pump has written after every course of moves, whatever its sink does: pings left out, the
first of the messages that came into the outbox, in order and once each, and then perhaps one
closing frame, which is the last of all frames and begun when the outbox was given up and every
message was written.  The frame of a message is a text from which its kind, its sender, its content,
its time and its room are read.  A pump ends for the outbox only with all messages written.  If it
ends otherwise, it is at a write of a ping or of a message that failed or timed out; nothing is
written after it, and no closing frame was begun. -/
theorem writing_law (period : 0 < config.pingPeriod) (now : Nat) (arrivals : List (Nat × Message))
    (closesAt : Option Nat) {course : List (Nat × Task)}
    (allowed : (Run.start config now arrivals closesAt).allowed config sink course = true) :
    let r := (Run.start config now arrivals closesAt).after config sink course
    let starts := (Run.start config now arrivals closesAt).starts config sink course
    let queued := arrivals.map (·.2)
    (∃ sent closing, sent <+: queued ∧
      withoutPings r.frames = sent.map Frame.ofMessage ++ closing ∧
      (closing = [] ∨ closing = [.close none] ∧ sent = queued ∧
        r.frames.getLast? = some (.close none) ∧
        ∃ begun given, starts.getLast? = some (begun, .close none) ∧ closesAt = some given ∧
          given ≤ begun)) ∧
    (∀ m ∈ queued, ∃ text, Frame.ofMessage m = .text text ∧
      Json.decode Wire.Outbound.record.read (Text.Utf8.ofText text) =
        .ok { kind := m.kind, senderId := m.senderId.text, senderName := m.senderName.text
              content := m.content, timestamp := m.timestamp.toMillisText
              roomId := m.roomId.text }) ∧
    r.pump.exit ≠ some .crashed ∧
    (r.pump.exit = some (.ended .queueClosed) →
      queued.map Frame.ofMessage <+: withoutPings r.frames) ∧
    (∀ why, r.pump.exit = some (.ended why) → why ≠ .queueClosed →
      ∃ before begun frame, starts = before ++ [(begun, frame)] ∧
        (frame.isPing = true ∨ ∃ m ∈ queued, frame = .ofMessage m) ∧
        r.frames = before.map (·.2) ∧ Open starts ∧
        Ensues config.writeWait begun (sink before.length) r.now (.error why) ∧
        (why = .timeout → r.now = begun + config.writeWait)) ∧
    ∀ exit, r.pump.exit = some exit → ∀ task, r.readyAt task = none := by
  intro r starts queued
  have faithful : Faithful config sink queued closesAt starts r :=
    faithful_after period now arrivals closesAt allowed
  exact ⟨faithful.frames, fun m _ => decode_frameOfMessage m, faithful.exit_ne_crashed,
    faithful.drained,
    fun _ exited notClosed => faithful.broken exited notClosed, fun _ exited => readyAt_of_exit exited⟩

open Sample in
/-- A ping between two messages stalls: the second message is never written. -/
theorem writing_law_stalled :
    let config : ConnectionConfig := { pingPeriod := 10, writeWait := 5 }
    let sink : Sink := fun n => if n = 1 then .never else .lasts 2 none
    let arrivals := [(1, saying "one"), (12, saying "two")]
    let course := [(1, .queue), (3, .settle), (10, .tick), (15, .settle)]
    let r := (Run.start config 0 arrivals (some 12)).after config sink course
    let starts := (Run.start config 0 arrivals (some 12)).starts config sink course
    ∃ before begun frame, starts = before ++ [(begun, frame)] ∧
      (frame.isPing = true ∨ ∃ m ∈ arrivals.map (·.2), frame = .ofMessage m) ∧
      r.frames = before.map (·.2) ∧ Open starts ∧
      Ensues config.writeWait begun (sink before.length) r.now (.error .timeout) ∧
      (WriteEnd.timeout = .timeout → r.now = begun + config.writeWait) := by
  intro config sink arrivals course r starts
  exact (writing_law (by decide : 0 < config.pingPeriod) 0 arrivals (some 12)
    (by decide +kernel : (Run.start config 0 arrivals (some 12)).allowed config sink course = true)
    ).2.2.2.2.1 .timeout rfl nofun

end WritePump.Run
end RoomHub
