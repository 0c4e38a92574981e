import RoomHub.Proofs.Connection.Service

/-!
# The end of a connection

Whichever pump ends first, a connection says farewell to its hub once, if it can still reach it, and
is over only when its writer has ended, too.  `Orderly` is kept by every incident: a connection that
has said farewell, or whose hub is gone, is no member of its room and never becomes one again.  From
its end on a connection touches nobody else (`cleanup`).
-/

namespace RoomHub
namespace Service

variable {x : Service} {time : Nat} {i : Incident} {course more : List (Nat × Incident)}

/-- What holds of a connection that has done nothing yet: its outbox is its own.  Hubs that have
stopped have no members, and a hub that cannot be reached has stopped. -/
structure Begins (x : Service) : Prop where
  reading : x.connection.reading = true
  crashed : x.connection.crashed = false
  endedAt : x.connection.endedAt = none
  own : x.connection.participant.queue.owner = x.self
  stilled : ∀ hub, x.hub? = some hub → hub.Stilled
  gone : x.connection.linked = false → ∀ hub, x.hub? = some hub → hub.running = false

/-- What is kept while a connection is served. -/
structure Orderly (x : Service) : Prop where
  own : x.connection.participant.queue.owner = x.self
  stilled : ∀ hub, x.hub? = some hub → hub.Stilled
  settled : x.connection.Settled
  left : x.connection.linked = false ∨ x.connection.reading = false ∧ x.connection.crashed = false →
    ¬ x.IsMember

theorem Begins.orderly (begins : x.Begins) : x.Orderly where
  own := begins.own
  stilled := begins.stilled
  settled finished := by simp [begins.endedAt] at finished
  left := by
    rintro (gone | ⟨ended, -⟩)
    · rintro ⟨hub, known, member⟩
      simp [begins.stilled hub known (begins.gone gone hub known)] at member
    · simp [begins.reading] at ended

/-- Nobody registers the connection. -/
theorem entrant_of_hears (allows : x.allows time i = true) {e : Hub.Event}
    (heard : e ∈ x.hears time i) : e.entrant? ≠ some x.self := by
  cases i with
  | own m =>
    have outcome := outcome_step allows
    generalize x.demands time (.own m) = demands, x.hears time (.own m) = events at outcome heard
    cases outcome with
    | relays message =>
      obtain ⟨said, -, rfl⟩ := List.mem_map.1 heard
      exact nofun
    | ends =>
      rw [Connection.eq_of_mem_parting heard]
      exact nofun
    | crashes => cases heard
    | aside _ _ _ own => rcases own e heard with rfl | rfl <;> exact nofun
  | other room e' =>
    simp only [hears] at heard
    split_ifs at heard with here
    · cases List.mem_singleton.1 heard
      intro entering
      cases e with
      | register id user capacity =>
        simp only [Hub.Event.entrant?, Option.some.injEq] at entering
        simp [Service.allows, here, Hub.Event.concerns, entering, Hub.Event.message?] at allows
      | _ => cases entering
    · cases heard
  | _ => cases heard

theorem not_isMember_step (absent : ¬ x.IsMember) (allows : x.allows time i = true) :
    ¬ (x.step time i).IsMember := by
  rintro ⟨hub', known', member⟩
  rw [self_step] at member
  obtain ⟨hub, known, rfl⟩ | ⟨hub, known, rfl⟩ | rfl := hub?_step_cases known'
  · exact Hub.not_mem_foldl_obey (fun e he => entrant_of_hears allows he)
      (fun was => absent ⟨hub, known, was⟩) member
  · cases member
  · cases member

theorem not_isMember_after (absent : ¬ x.IsMember) (allowed : x.allowed course = true) :
    ¬ (x.after course).IsMember :=
  kept_after (P := fun y => ¬ y.IsMember) not_isMember_step absent allowed

/-- Who has taken its leave is no member any more. -/
theorem not_isMember_of_parting {m : Connection.Move}
    (stilled : ∀ hub, x.hub? = some hub → hub.Stilled) (linked : x.connection.linked = true)
    (parts : x.hears time (.own m) = x.connection.parting) :
    ¬ (x.step time (.own m)).IsMember := by
  rintro ⟨hub', known', member⟩
  rw [hub?_step_own, Option.map_eq_some_iff] at known'
  obtain ⟨hub, known, rfl⟩ := known'
  rw [parts, Connection.parting, if_pos linked, self_step] at member
  exact Hub.not_mem_obey_unregister (stilled hub known) x.self member

theorem Orderly.step (orderly : x.Orderly) (allows : x.allows time i = true) :
    (x.step time i).Orderly where
  own := by
    rw [participant_step, self_step]
    exact orderly.own
  stilled hub' known' := by
    obtain ⟨hub, known, rfl⟩ | ⟨hub, known, rfl⟩ | rfl := hub?_step_cases known'
    · exact (orderly.stilled hub known).foldl_obey _
    · exact fun _ => rfl
    · exact nofun
  settled := by
    cases i with
    | own m => exact orderly.settled.perform time x.server m (due_of_allows allows)
    | _ => exact orderly.settled
  left := by
    intro leaves
    by_cases left : x.connection.linked = false ∨
        x.connection.reading = false ∧ x.connection.crashed = false
    · exact not_isMember_step (orderly.left left) allows
    · -- the connection leaves with this very incident
      cases i with
      | own m =>
        obtain ⟨linked, works⟩ := not_or.1 left
        have same : (x.step time (.own m)).connection.linked = x.connection.linked :=
          x.connection.linked_perform time x.server m
        rw [same, or_iff_right linked] at leaves
        have outcome := outcome_step allows
        generalize x.demands time (.own m) = demands at outcome
        generalize heard : x.hears time (.own m) = events at outcome
        cases outcome with
        | relays _ _ reading => simp [reading] at leaves
        | ends => exact not_isMember_of_parting orderly.stilled (by simpa using linked) heard
        | crashes _ _ crashed => simp [crashed] at leaves
        | aside reading crashed =>
          rw [reading, crashed] at leaves
          exact absurd leaves works
      | cutOff =>
        rintro ⟨hub', known', member⟩
        rw [hub?_step_cutOff, Option.map_eq_some_iff] at known'
        obtain ⟨hub, known, rfl⟩ := known'
        cases member
      | _ => exact absurd leaves left

theorem Orderly.after (orderly : x.Orderly) (allowed : x.allowed course = true) :
    (x.after course).Orderly :=
  kept_after Orderly.step orderly allowed

/-! ### The farewell -/

/-- How often the connection says farewell in a course. -/
def farewells (x : Service) (course : List (Nat × Incident)) : Nat :=
  (along demands x course).countP Connection.Demand.isFarewell

theorem farewells_cons (x : Service) (time : Nat) (i : Incident) (course : List (Nat × Incident)) :
    x.farewells ((time, i) :: course) =
      (x.demands time i).countP Connection.Demand.isFarewell + (x.step time i).farewells course :=
  List.countP_append

/-- What an incident makes of the reader, and whether the connection says farewell in it.  A reader
that is gone does not come back, and one that has crashed stays so. -/
inductive Watch (x : Service) (time : Nat) (i : Incident) : Prop
  | stays (reading : (x.step time i).connection.reading = x.connection.reading)
      (crashed : (x.step time i).connection.crashed = x.connection.crashed)
      (quiet : (x.demands time i).countP Connection.Demand.isFarewell = 0)
  | ends (m : Connection.Move) (own : i = .own m) (before : x.connection.reading = true)
      (reading : (x.step time i).connection.reading = false)
      (once : (x.demands time i).countP Connection.Demand.isFarewell =
        if x.connection.linked then 1 else 0)
  | crashes (before : x.connection.reading = true)
      (reading : (x.step time i).connection.reading = false)
      (crashed : (x.step time i).connection.crashed = true)

theorem watch (allows : x.allows time i = true) : x.Watch time i := by
  cases i with
  | own m =>
    have outcome := outcome_step allows
    generalize hdemands : x.demands time (.own m) = demands at outcome
    generalize x.hears time (.own m) = events at outcome
    cases outcome with
    | relays _ before reading crashed quiet =>
      exact .stays (reading.trans before.symm) crashed (hdemands ▸ quiet)
    | ends before reading _ once => exact .ends m rfl before reading (hdemands ▸ once)
    | crashes before reading crashed => exact .crashes before reading crashed
    | aside reading crashed quiet => exact .stays reading crashed (hdemands ▸ quiet)
  | _ => exact .stays rfl rfl rfl

/-- A connection whose reader is gone says no farewell any more. -/
theorem ended_after (ended : x.connection.reading = false) (allowed : x.allowed course = true) :
    (x.after course).connection.reading = false ∧
      (x.after course).connection.crashed = x.connection.crashed ∧ x.farewells course = 0 := by
  induction course generalizing x with
  | nil => exact ⟨ended, rfl, rfl⟩
  | cons i course ih =>
    obtain ⟨time, i⟩ := i
    obtain ⟨first, rest⟩ := Bool.and_eq_true_iff.1 allowed
    cases watch first with
    | stays reading crashed quiet =>
      obtain ⟨gone, same, silent⟩ := ih (reading.trans ended) rest
      exact ⟨gone, same.trans crashed, by rw [farewells_cons, quiet, silent]⟩
    | ends _ _ before => exact absurd (before.symm.trans ended) (by decide)
    | crashes before => exact absurd (before.symm.trans ended) (by decide)

/-- A connection whose reader has ended has said farewell once, in the move that has ended it, if it
could still reach the hub by then. -/
theorem exists_farewell (reading : x.connection.reading = true) (allowed : x.allowed course = true)
    (ended : (x.after course).connection.reading = false)
    (sane : (x.after course).connection.crashed = false) :
    ∃ before time m rest, course = before ++ (time, .own m) :: rest ∧
      (x.after before).connection.reading = true ∧
      ((x.after before).step time (.own m)).connection.reading = false ∧
      x.farewells course = if (x.after before).connection.linked then 1 else 0 := by
  induction course generalizing x with
  | nil => exact absurd (reading.symm.trans ended) (by decide)
  | cons i course ih =>
    obtain ⟨time, i⟩ := i
    obtain ⟨first, rest⟩ := Bool.and_eq_true_iff.1 allowed
    rw [farewells_cons]
    cases watch first with
    | stays goes _ quiet =>
      obtain ⟨before, time', m, more, rfl, works, stops, once⟩ :=
        ih (goes.trans reading) rest ended sane
      rw [quiet, Nat.zero_add]
      exact ⟨(time, i) :: before, time', m, more, rfl, works, stops, once⟩
    | ends m own _ stops once =>
      -- the first step without a reader is the one; none of the others can say farewell
      subst own
      rw [(ended_after stops rest).2.2, once]
      exact ⟨[], time, m, course, rfl, reading, stops, rfl⟩
    | crashes _ stops crashed =>
      have broken := (ended_after stops rest).2.1.trans crashed
      exact absurd (broken.symm.trans sane) (by decide)

/-! ### Everybody else -/

/-- From the end of its reader on a connection turns to the hub about itself only. -/
theorem concerns_of_ended {m : Connection.Move}
    (own : x.connection.participant.queue.owner = x.self) (allows : x.allows time (.own m) = true)
    (ended : (x.step time (.own m)).connection.reading = false) {id : ConnectionId}
    (other : id ≠ x.self) : ∀ e ∈ x.hears time (.own m), e.concerns id = false := by
  have outcome := outcome_step allows
  generalize x.demands time (.own m) = demands, x.hears time (.own m) = events at outcome
  intro e heard
  cases outcome with
  | relays _ _ goes => exact absurd (goes.symm.trans ended) (by decide)
  | ends =>
    rw [Connection.eq_of_mem_parting heard]
    exact decide_eq_false other.symm
  | crashes => cases heard
  | aside _ _ _ acts =>
    rcases acts e heard with rfl | rfl <;> simpa [Hub.Event.concerns, own] using other.symm

theorem only_step_of_ended {m : Connection.Move}
    (own : x.connection.participant.queue.owner = x.self) (allows : x.allows time (.own m) = true)
    (ended : (x.step time (.own m)).connection.reading = false) {room : RoomId} {id : ConnectionId}
    (other : room ≠ x.room ∨ id ≠ x.self) :
    ((x.step time (.own m)).server.hub? room).map (·.only id) =
      (x.server.hub? room).map (·.only id) := by
  rw [x.undergoes_step_own time m room]
  by_cases here : room = x.room
  · have apart := concerns_of_ended own allows ended (other.resolve_left (not_not.2 here))
    rw [if_pos here, Option.map_map]
    congr 1
    funext hub
    exact Hub.only_foldl_obey apart hub
  · rw [if_neg here]

/-- Whether the connection is over: its writer has ended and so has its reader, which has not
crashed. -/
def Returned (x : Service) : Prop :=
  x.connection.endedAt.isSome = true ∧ x.connection.crashed = false

/-- When a connection is over, its writer has ended; it has said farewell exactly once if it could
reach its hub when the first of its pumps ended, and not at all otherwise; it is no member and never
becomes one again.  From that end on nothing that it does changes what any hub knows of any other
connection. -/
theorem cleanup (x : Service) (begins : x.Begins) (course : List (Nat × Incident))
    (allowed : x.allowed course = true) :
    ((x.after course).Returned →
      (x.after course).connection.writer.exit.isSome = true ∧
      (∃ before time m rest, course = before ++ (time, .own m) :: rest ∧
        (x.after before).connection.reading = true ∧
        ((x.after before).step time (.own m)).connection.reading = false ∧
        x.farewells course = if (x.after before).connection.linked then 1 else 0) ∧
      ∀ more, (x.after course).allowed more = true → ¬ ((x.after course).after more).IsMember) ∧
    ∀ before time m rest, course = before ++ (time, .own m) :: rest →
      ((x.after before).step time (.own m)).connection.reading = false →
      ∀ room id, room ≠ x.room ∨ id ≠ x.self →
        (((x.after before).step time (.own m)).server.hub? room).map (·.only id) =
          ((x.after before).server.hub? room).map (·.only id) := by
  refine ⟨fun ⟨finished, sane⟩ => ?_, fun before time m rest split ended room id other => ?_⟩
  · have orderly := begins.orderly.after allowed
    obtain ⟨written, ended⟩ := orderly.settled finished
    exact ⟨written, exists_farewell begins.reading allowed ended sane, fun more continued =>
      not_isMember_after (orderly.left (.inr ⟨ended, sane⟩)) continued⟩
  · rw [split, allowed_append] at allowed
    have orderly := begins.orderly.after allowed.1
    have allows := (Bool.and_eq_true_iff.1 allowed.2).1
    exact only_step_of_ended orderly.own allows ended (by rwa [room_after, self_after])

/-- The stalled connection, from its eviction to its end. -/
def stalledEnd : List (Nat × Incident) :=
  [(5000, .own (.write .settle)), (5000, .own (.write .queue)), (10000, .own (.write .settle)),
    (10000, .own (.write .queue)), (15000, .own (.write .settle)), (15000, .own .conclude)]

theorem begins_stalled : stalled.Begins := by
  have running : stalled.hub?.map (·.running) = some true := by decide +kernel
  refine ⟨rfl, rfl, rfl, rfl, fun hub known stopped => ?_, nofun⟩
  simp [known, stopped] at running

/-- A connection that was evicted says farewell all the same, once, when its writer has ended. -/
theorem cleanup_stalled :
    let final := stalled.after (eviction ++ stalledEnd)
    stalled.Begins ∧ stalled.allowed (eviction ++ stalledEnd) = true ∧ final.Returned ∧
      final.connection.writer.exit.isSome = true ∧
      ∀ more, final.allowed more = true → ¬ (final.after more).IsMember := by
  intro final
  have allowed : stalled.allowed (eviction ++ stalledEnd) = true := by decide +kernel
  have returned : final.Returned := ⟨by decide +kernel, by decide +kernel⟩
  obtain ⟨written, -, stays⟩ := (cleanup stalled begins_stalled _ allowed).1 returned
  exact ⟨begins_stalled, allowed, returned, written, stays⟩

end Service
end RoomHub
