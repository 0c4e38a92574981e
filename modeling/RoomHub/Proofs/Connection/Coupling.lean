import RoomHub.Proofs.Server.Coupling
import RoomHub.Proofs.World.Steps

/-!
# Connections of servers that go the same way

A connection makes the same moves on related servers, provided they are related in the room of the
connection (`Connection.perform_coupled`).
-/

namespace RoomHub

open Server

variable {R : Server → Server → Prop} {s t : Server}

namespace ReadPump

variable {room : RoomId}

theorem relay_coupled (K : RoomCoupling room R) (h : R s t) (gone : Bool) (sender : Identity)
    (m : Wire.Inbound) :
    Coupled R (relay s gone room sender m) (relay t gone room sender m) := by
  unfold relay
  split_ifs
  · exact ⟨rfl, h⟩
  · obtain ⟨result, s', t', hs, ht, related⟩ := (K.relay h sender m.kind m.content).split
    rw [hs, ht]
    cases result with
    | ok done => exact ⟨rfl, related⟩
    | error why =>
      cases why with
      | crashed crash => exact ⟨rfl, related⟩
      | refused why =>
        cases why with
        | reservedKind kind => exact ⟨rfl, K.report _ related⟩
        | hubUnavailable why => exact ⟨rfl, related⟩

theorem take_coupled (K : RoomCoupling room R) (h : R s t) (config : ConnectionConfig) (gone : Bool)
    (sender : Identity) (time deadline : Nat) (arrival : Arrival) :
    ∃ exit later s' t', take config gone room sender time deadline s arrival = (exit, later, s') ∧
      take config gone room sender time deadline t arrival = (exit, later, t') ∧ R s' t' := by
  unfold take
  cases judge config arrival with
  | stop why => exact ⟨_, _, s, t, rfl, rfl, h⟩
  | alive => exact ⟨_, _, s, t, rfl, rfl, h⟩
  | relay m =>
    obtain ⟨exit, s', t', hs, ht, related⟩ := (relay_coupled K h gone sender m).split
    dsimp only
    rw [hs, ht]
    exact ⟨_, _, s', t', rfl, rfl, related⟩

end ReadPump

namespace Connection

variable {c : Connection} (K : RoomCoupling c.participant.room R)
include K

theorem unregister_coupled (h : R s t) : R (c.unregister s) (c.unregister t) :=
  K.unregister h c.linked c.participant.id

theorem release_coupled (h : R s t) : R (c.release s) (c.release t) := by
  unfold release
  split_ifs
  · exact K.receive h _
  · exact h

theorem stopReading_coupled (h : R s t) (why : ReadEnd) :
    Coupled R (c.stopReading s why) (c.stopReading t why) :=
  ⟨rfl, unregister_coupled K (K.report _ h)⟩

theorem read_coupled (time : Nat) (h : R s t) : Coupled R (c.read time s) (c.read time t) := by
  unfold read
  split
  · cases c.tail with
    | ends => exact stopReading_coupled K h _
    | silent => exact stopReading_coupled K h _
  next arrives arrival rest waiting =>
    split_ifs
    · exact stopReading_coupled K h _
    · dsimp only
      have same : ({ c with inbox := rest }.send time (c.reply arrival)).participant =
          c.participant := participant_send _ _ _
      generalize { c with inbox := rest }.send time (c.reply arrival) = d at same
      rw [← same] at K
      obtain ⟨exit, later, s', t', hs, ht, related⟩ := ReadPump.take_coupled K h d.config
        (!d.linked) d.participant.identity time d.deadline arrival
      rw [hs, ht]
      cases exit with
      | none => exact ⟨rfl, related⟩
      | some exit =>
        cases exit with
        | ended why => exact stopReading_coupled K related why
        | crashed => exact ⟨rfl, related⟩

theorem write_coupled (task : WritePump.Task) (time : Nat) (h : R s t) :
    Coupled R (c.write task time s) (c.write task time t) := by
  unfold write supply
  rw [K.supply_eq h]
  dsimp only
  generalize t.supply c.participant.room c.participant.queue = has
  set written := c.writer.perform c.config c.sink time has task
  have same : ({ c with writer := written.1 }.send time written.2.toList).participant =
      c.participant := participant_send _ _ _
  generalize { c with writer := written.1 }.send time written.2.toList = d at same ⊢
  rw [← same] at K
  refine ⟨rfl, release_coupled K ?_⟩
  split
  · exact K.receive h _
  · exact h

theorem conclude_coupled (time : Nat) (h : R s t) :
    Coupled R (c.conclude time s) (c.conclude time t) := by
  unfold conclude
  dsimp only
  refine ⟨rfl, ?_⟩
  have ended : R (if c.reading then c.unregister s else s)
      (if c.reading then c.unregister t else t) := by
    split_ifs
    · exact unregister_coupled K h
    · exact h
  generalize (if c.reading then c.unregister s else s) = s' at ended ⊢
  generalize (if c.reading then c.unregister t else t) = t' at ended ⊢
  split_ifs
  · exact ended
  · exact K.report _ ended

/-- A move does the same on servers that are related in the room of the connection. -/
theorem perform_coupled (m : Move) (time : Nat) (h : R s t) :
    Coupled R (m.perform c time s) (m.perform c time t) := by
  cases m with
  | hear f => exact ⟨rfl, h⟩
  | lose => exact ⟨rfl, h⟩
  | read => exact read_coupled K time h
  | write task => exact write_coupled K task time h
  | conclude => exact conclude_coupled K time h

end Connection
end RoomHub
