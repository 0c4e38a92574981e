import RoomHub.Proofs.Server.Changes

/-!
# The capacity of outboxes

A server makes all its outboxes with the capacity that it is set to, at least one, and only if there
can be outboxes of that capacity (`Server.Made`).  Nothing that happens to a hub changes the capacity
of an outbox (`Hub.Made.handle`), so this holds of whatever a server does (`Leads.made`).
-/

namespace RoomHub

namespace Server

/-- A queue can be made unless more is asked for than a queue can hold. -/
theorem canHold_iff {capacity : Nat} :
    canHold capacity = true ↔ capacity ≤ ConnectionConfig.maxCapacity := by
  have one : 1 ≤ ConnectionConfig.maxCapacity := by decide
  simp only [canHold, decide_eq_true_eq]
  omega

end Server

namespace Hub

variable {hub : Hub} {capacity : Nat}

/-- All outboxes of the hub were made with this capacity, and could be. -/
def Made (hub : Hub) (capacity : Nat) : Prop :=
  ∀ x ∈ hub.outboxes, x.2.capacity = max capacity 1 ∧ Server.canHold capacity = true

theorem made_start (room : RoomId) (capacity : Nat) : (start room).Made capacity :=
  fun _ there => absurd there List.not_mem_nil

/-- A change of outboxes does no harm that leaves their capacities. -/
theorem Made.of_map (made : hub.Made capacity) {outboxes : List (QueueId × Outbox)}
    {f : QueueId × Outbox → QueueId × Outbox} (changed : outboxes = hub.outboxes.map f)
    (same : ∀ x, (f x).2.capacity = x.2.capacity) (members : List Member) :
    Made { hub with members := members, outboxes := outboxes } capacity := by
  intro x there
  rw [changed] at there
  obtain ⟨y, hy, rfl⟩ := List.mem_map.1 there
  rw [same]
  exact made y hy

theorem Made.modify (made : hub.Made capacity) (queue : QueueId) {f : Outbox → Outbox}
    (same : ∀ b, (f b).capacity = b.capacity) : (hub.modify queue f).Made capacity := by
  refine made.of_map (outboxes_modify hub queue f) (fun x => ?_) hub.members
  dsimp only
  split_ifs
  · exact same x.2
  · rfl

/-- Events change no capacity, and a registration makes an outbox of the capacity that it asks
for. -/
theorem Made.handle (made : hub.Made capacity) (sound : hub.Sound) (visit : Visit) {e : Event}
    (fits : (Server.Change.handled e).Fits capacity) : (hub.handle visit e).1.Made capacity := by
  cases e with
  | register id user asked =>
    obtain ⟨rfl, fits⟩ := fits
    intro x there
    rcases List.mem_cons.1 there with rfl | before
    · exact ⟨rfl, fits⟩
    · exact made x before
  | unregister id => exact made
  | broadcast m =>
    simp only [Hub.handle, sound.broadcast_fst]
    refine made.of_map rfl (fun x => ?_) _
    split_ifs
    · exact Outbox.capacity_offer x.2 m
    · rfl
  | inspect => exact made
  | take queue => exact made.modify queue Outbox.capacity_take
  | dropReceiver queue => exact made.modify queue fun _ => rfl

end Hub

namespace Server

variable {P : RoomId → Change → Prop} {s s' : Server} {capacity : Nat}

/-- All outboxes of a server were made with this capacity, and could be. -/
def Made (s : Server) (capacity : Nat) : Prop := ∀ hub ∈ s.hubs, hub.Made capacity

theorem Leads.made (h : Leads P s s') (made : s.Made capacity) (sound : s.Sound)
    (fits : ∀ room change, P room change → change.Fits capacity) : s'.Made capacity := by
  induction h with
  | quiet same =>
    intro hub there
    exact made hub (same.hubs ▸ there)
  | @found s s' room new allowed grown =>
    intro hub there
    rw [grown.hubs, List.mem_append, List.mem_singleton] at there
    rcases there with before | rfl
    · exact made hub before
    · exact Hub.made_start room capacity
  | @handled s s' room hub e known allowed changed =>
    intro x there
    rw [changed.hubs] at there
    obtain ⟨y, hy, rfl⟩ := List.mem_map.1 there
    split_ifs
    · exact (made hub (hub?_mem known)).handle (sound hub (hub?_mem known)) .inOrder
        (fits _ _ allowed)
    · exact made y hy
  | saved kept allowed changed =>
    intro hub there
    exact made hub (changed.hubs ▸ there)
  | trans before _ first second => exact second (first made sound) (before.sound sound)

end Server
end RoomHub
