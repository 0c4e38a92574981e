import Mathlib.Data.List.Induction
import RoomHub.Proofs.World.Happening

/-!
# Who holds the hubs

A hub runs as long as somebody has a handle to it.  The registry keeps one to the hub of every room
that it was asked for, an admission keeps one until it is done, and whoever else turns to a hub
needs a handle only within one happening.  Connections have none: they can reach the hub of their
room only while others hold it.

`World.settle` stops the hubs that nobody holds and cuts off their connections.  A `Held` world is
settled after everything that happens to it, while admissions come and go.  As no entry of the
registry is ever given up, there is never anything to settle: `Held.after_eq`.
-/

namespace RoomHub

open Http Server

/-- The room whose hub a happening asks the registry for. -/
def World.Happening.reached? (w : World) : Happening → Option RoomId
  | .step (.request _ r) => (w.server.answer r).entering.map (·.2)
  | .resolve room => some room
  | .step (.move _ _ _) | .step (.setClocks _ _) | .ask _ | .announce _ _ | .enroll _ _ _ => none

theorem World.Happening.reached?_eq_some_iff {w : World} {x : Happening} {room : RoomId} :
    x.reached? w = some room ↔ x.Reaches w room := by
  constructor
  · intro reached
    cases x with
    | step x =>
      cases x with
      | request id r =>
        obtain ⟨⟨user, room⟩, enters, rfl⟩ := Option.map_eq_some_iff.1 reached
        exact .request enters
      | _ => cases reached
    | resolve room =>
      cases reached
      exact .resolve room
    | _ => cases reached
  · intro reaches
    cases reaches with
    | request enters => simp only [reached?, enters, Option.map_some]
    | resolve => rfl

/-- The handles to hubs that outlast a happening. -/
structure Handles where
  /-- The rooms in the registry. -/
  entries : List RoomId
  /-- The rooms of the admissions that have got a hub and are not done. -/
  admissions : List RoomId

namespace Handles

/-- Whether anybody holds the hub of a room. -/
def holds (h : Handles) (room : RoomId) : Bool := room ∈ h.entries ∨ room ∈ h.admissions

/-- The registry is asked for the hub of a room.  It makes an entry if there is none, unless the
queue of the hub cannot be made. -/
def resolve (h : Handles) (capacity : Nat) (room : RoomId) : Handles :=
  if room ∈ h.entries then h
  else if canHold capacity then { h with entries := h.entries ++ [room] }
  else h

/-- An admission keeps the handle that the registry gives it, if it gives one. -/
def keep (h : Handles) (room : RoomId) : Handles :=
  if room ∈ h.entries then { h with admissions := room :: h.admissions } else h

/-- An admission to a room is over. -/
def release (h : Handles) (room : RoomId) : Handles :=
  { h with admissions := h.admissions.erase room }

/-- The handles after something has happened to a world. -/
def happen (h : Handles) (w : World) (x : World.Happening) : Handles :=
  let asked := ((x.reached? w).map (h.resolve w.server.settings.intakeCapacity)).getD h
  match x with
  | .resolve room => asked.keep room
  | .enroll _ _ room => asked.release room
  | .step _ | .ask _ | .announce _ _ => asked

variable {h : Handles} {capacity : Nat} {room other : RoomId}

theorem holds_of_mem_entries (there : room ∈ h.entries) : h.holds room = true :=
  decide_eq_true (.inl there)

theorem mem_entries_resolve_iff : room ∈ (h.resolve capacity other).entries ↔
    room ∈ h.entries ∨ canHold capacity = true ∧ other = room := by
  unfold resolve
  split_ifs with known fits
  · refine ⟨.inl, ?_⟩
    rintro (there | ⟨-, rfl⟩)
    · exact there
    · exact known
  · simp [fits, eq_comm]
  · simp [fits]

@[simp] theorem entries_keep (h : Handles) (room : RoomId) : (h.keep room).entries = h.entries := by
  unfold keep
  split_ifs <;> rfl

@[simp] theorem entries_release (h : Handles) (room : RoomId) :
    (h.release room).entries = h.entries := rfl

/-- The registry gets entries just for the rooms that it is asked for, and it keeps them. -/
theorem mem_entries_happen_iff (h : Handles) (w : World) (x : World.Happening) :
    room ∈ (h.happen w x).entries ↔ room ∈ h.entries ∨
      canHold w.server.settings.intakeCapacity = true ∧ x.Reaches w room := by
  have asked : (h.happen w x).entries =
      (((x.reached? w).map (h.resolve w.server.settings.intakeCapacity)).getD h).entries := by
    cases x <;> simp [happen]
  rw [asked, ← World.Happening.reached?_eq_some_iff]
  cases x.reached? w with
  | none => simp
  | some other =>
    rw [Option.map_some, Option.getD_some, mem_entries_resolve_iff, Option.some.injEq]

end Handles

namespace World

/-- A world in which hubs that nobody holds have stopped, and no connection can reach them. -/
def settle (w : World) (h : Handles) : World :=
  { w with
      server := { w.server with
        hubs := w.server.hubs.map fun hub => if h.holds hub.room then hub else hub.stop }
      connections := w.connections.map fun c =>
        if h.holds c.participant.room then c else { c with linked := false } }

variable {w : World} {h : Handles}

/-- Of the hubs of a lasting world, just those that somebody holds go on. -/
theorem Lasting.running_settle_iff (lasting : w.Lasting) {hub : Hub}
    (there : hub ∈ (w.settle h).server.hubs) : hub.running = true ↔ h.holds hub.room = true := by
  obtain ⟨before, known, rfl⟩ := List.mem_map.1 there
  split_ifs with held
  · exact iff_of_true (lasting.server.running before known) held
  · exact iff_of_false nofun held

/-- Of the connections of a lasting world, just those whose hub somebody holds can reach it. -/
theorem Lasting.linked_settle_iff (lasting : w.Lasting) {c : Connection}
    (there : c ∈ (w.settle h).connections) :
    c.linked = true ↔ h.holds c.participant.room = true := by
  obtain ⟨before, known, rfl⟩ := List.mem_map.1 there
  split_ifs with held
  · exact iff_of_true (lasting.linked before known).1 held
  · exact iff_of_false nofun held

/-- Without her room in the registry, Ann would be cut off. -/
example : (((ofServer Sample.server).through annEnters).settle ⟨[], []⟩).connections.map
    (·.linked) = [false] := by decide

/-- Nothing becomes of a world whose hubs are all in the registry. -/
theorem Lasting.settle_eq (lasting : w.Lasting)
    (entered : ∀ room ∈ w.server.rooms, room ∈ h.entries) : w.settle h = w := by
  have hubs : (w.server.hubs.map fun hub => if h.holds hub.room then hub else hub.stop) =
      w.server.hubs :=
    (List.map_congr_left fun hub there => if_pos
      (Handles.holds_of_mem_entries (entered hub.room (List.mem_map_of_mem there)))).trans
      (List.map_id _)
  have connections : (w.connections.map fun c =>
      if h.holds c.participant.room then c else { c with linked := false }) = w.connections :=
    (List.map_congr_left fun c there => if_pos
      (Handles.holds_of_mem_entries (entered _ (lasting.linked c there).2))).trans (List.map_id _)
  rw [settle, hubs, connections]

end World

/-- A world and the handles to its hubs. -/
structure Held where
  world : World
  handles : Handles

namespace Held

open World

/-- What happens to a held world. -/
inductive Event where
  | happens (time : Nat) (x : Happening)
  /-- An admission to a room is broken off, and its handle is gone. -/
  | breaksOff (room : RoomId)

/-- A world to whose hubs nobody has a handle yet. -/
def start (w : World) : Held := ⟨w, ⟨[], []⟩⟩

/-- Handles are made and dropped in an event, and then the world is settled. -/
def step (held : Held) : Event → Held
  | .happens time x =>
    let handles := held.handles.happen held.world x
    ⟨(held.world.happen time x).settle handles, handles⟩
  | .breaksOff room =>
    let handles := held.handles.release room
    ⟨held.world.settle handles, handles⟩

/-- A held world after a list of events. -/
def after (held : Held) (events : List Event) : Held := events.foldl step held

/-- What happens in the world. -/
def happenings (events : List Event) : List (Nat × Happening) :=
  events.filterMap fun
    | .happens time x => some (time, x)
    | .breaksOff _ => none

variable {w : World}

/-- A world that has no hub at first is never settled: the rooms in the registry are always those
with a hub. -/
theorem after_eq (lasting : w.Lasting) (fresh : w.server.rooms = []) (events : List Event) :
    ((start w).after events).world = w.through (happenings events) ∧
      ∀ room, room ∈ ((start w).after events).handles.entries ↔
        room ∈ (w.through (happenings events)).server.rooms := by
  induction events using List.reverseRecOn with
  | nil =>
    refine ⟨rfl, fun room => ?_⟩
    have none_yet : (w.through (happenings [])).server.rooms = [] := fresh
    rw [none_yet]
    rfl
  | append_singleton events e ih =>
    obtain ⟨same, entered⟩ := ih
    have before := lasting.through (happenings events)
    have split : happenings (events ++ [e]) = happenings events ++ happenings [e] :=
      List.filterMap_append
    rw [split, through_append]
    simp only [after, List.foldl_append, List.foldl_cons, List.foldl_nil] at same entered ⊢
    generalize events.foldl step (start w) = held at same entered ⊢
    obtain ⟨world, handles⟩ := held
    dsimp only at same entered
    subst same
    cases e with
    | happens time x =>
      generalize w.through (happenings events) = v at before entered ⊢
      have known : ∀ room, room ∈ (handles.happen v x).entries ↔
          room ∈ (v.happen time x).server.rooms := fun room => by
        rw [Handles.mem_entries_happen_iff, mem_rooms_happen_iff, entered]
      exact ⟨(before.happen time x).settle_eq fun room => (known room).2, known⟩
    | breaksOff room => exact ⟨before.settle_eq fun room => (entered room).2, entered⟩

end Held
end RoomHub
