import Mathlib.Data.List.Nodup
import RoomHub.Hub.Basic

/-!
# What a hub keeps

A hub that started empty is `Hub.Sound`: no two members have the same id, every member puts its
messages into an outbox that was numbered for it, and no outbox holds more than it may.  Every event
keeps this (`Hub.Sound.handle`).  On a sound hub the order in which a broadcast visits the members
does not show: `Sound.broadcast_fst` gives the outcome without it (`Sound.handle_fst_eq`).
-/

namespace RoomHub

namespace Outbox

/-! ### One outbox -/

@[simp] theorem accepted_take (b : Outbox) : b.take.accepted = b.accepted := by
  unfold take
  split_ifs <;> rfl

@[simp] theorem capacity_take (b : Outbox) : b.take.capacity = b.capacity := by
  unfold take
  split_ifs <;> rfl

@[simp] theorem receiving_take (b : Outbox) : b.take.receiving = b.receiving := by
  unfold take
  split_ifs <;> rfl

@[simp] theorem capacity_offer (b : Outbox) (m : Message) :
    (b.offer m).1.capacity = b.capacity := by
  unfold offer
  split_ifs <;> rfl

@[simp] theorem receiving_offer (b : Outbox) (m : Message) :
    (b.offer m).1.receiving = b.receiving := by
  unfold offer
  split_ifs <;> rfl

theorem pending_take (b : Outbox) : b.take.pending = b.pending.drop 1 := by
  unfold take
  split_ifs with h
  · simp [List.isEmpty_iff.1 h]
  · simp [pending]

/-- An outbox accepts a message exactly if it has a receiver and room. -/
theorem offer_eq_accepted_iff (b : Outbox) (m : Message) :
    (b.offer m).2 = .accepted ↔ b.receiving = true ∧ b.pending.length < b.capacity := by
  unfold offer
  split_ifs with hr hc <;> simp_all

theorem accepted_offer (b : Outbox) (m : Message) :
    (b.offer m).1.accepted =
      b.accepted ++ if (b.offer m).2 = .accepted then [m] else [] := by
  unfold offer
  split_ifs <;> simp_all

/-- No more messages wait than the capacity allows. -/
def Bounded (b : Outbox) : Prop := b.pending.length ≤ b.capacity

theorem bounded_empty (capacity : Nat) : (empty capacity).Bounded := by
  simp [Bounded, empty, pending]

theorem Bounded.take {b : Outbox} (h : b.Bounded) : b.take.Bounded := by
  unfold Bounded at *
  rw [pending_take, List.length_drop, capacity_take]
  omega

theorem Bounded.offer {b : Outbox} (h : b.Bounded) (m : Message) : (b.offer m).1.Bounded := by
  unfold Bounded Outbox.offer at *
  split_ifs with hr hc
  · exact h
  · exact h
  · have : (b.accepted ++ [m]).length - b.position ≤ b.pending.length + 1 := by
      simp only [pending, List.length_append, List.length_drop, List.length_singleton]
      omega
    simp only [pending, List.length_drop] at this hc ⊢
    omega

end Outbox

namespace Hub

/-! ### Looking up outboxes -/

theorem lookup_map_snd {α β γ : Type} [BEq α] [LawfulBEq α] (f : α → β → γ) (l : List (α × β))
    (a : α) : (l.map fun x => (x.1, f x.1 x.2)).lookup a = (l.lookup a).map (f a) := by
  induction l with
  | nil => rfl
  | cons x l ih =>
    obtain ⟨c, d⟩ := x
    by_cases h : a = c
    · subst h
      simp
    · simp only [List.map_cons, List.lookup_cons, beq_false_of_ne h, ih]

theorem lookup_filter_fst {α β : Type} [BEq α] [LawfulBEq α] (p : α → Bool) (l : List (α × β))
    {a : α} (h : p a = true) : (l.filter fun x => p x.1).lookup a = l.lookup a := by
  induction l with
  | nil => rfl
  | cons x l ih =>
    obtain ⟨c, d⟩ := x
    simp only [List.filter_cons]
    split_ifs with hc
    · rw [List.lookup_cons, List.lookup_cons, ih]
    · have distinct : a ≠ c := fun e => hc (e ▸ h)
      rw [List.lookup_cons, beq_false_of_ne distinct, ih]

theorem mem_of_lookup {α β : Type} [BEq α] [LawfulBEq α] {l : List (α × β)} {a : α} {b : β}
    (h : l.lookup a = some b) : (a, b) ∈ l := by
  obtain ⟨l₁, l₂, rfl, -⟩ := List.lookup_eq_some_iff.1 h
  simp

theorem outboxes_modify (hub : Hub) (q : QueueId) (f : Outbox → Outbox) :
    (hub.modify q f).outboxes =
      hub.outboxes.map fun x => (x.1, if x.1 = q then f x.2 else x.2) := by
  unfold modify
  apply List.map_congr_left
  rintro ⟨p, b⟩ -
  by_cases h : p = q <;> simp [h]

theorem outbox?_modify (hub : Hub) (p q : QueueId) (f : Outbox → Outbox) :
    (hub.modify q f).outbox? p = (hub.outbox? p).map fun b => if p = q then f b else b := by
  unfold outbox?
  rw [outboxes_modify, lookup_map_snd fun a b => if a = q then f b else b]

theorem isAttached_iff (hub : Hub) (q : QueueId) :
    hub.isAttached q = true ↔ ∃ x ∈ hub.members, x.queue = q := by
  simp [isAttached]

/-! ### Broadcasts -/

@[simp] theorem members_modify (hub : Hub) (q : QueueId) (f : Outbox → Outbox) :
    (hub.modify q f).members = hub.members := rfl

theorem offerAll_fst (m : Message) (members : List Member) (hub : Hub)
    (distinct : (members.map (·.queue)).Nodup) :
    (offerAll m members hub).1 =
      { hub with
          outboxes := hub.outboxes.map fun x =>
            (x.1, if x.1 ∈ members.map (·.queue) then (x.2.offer m).1 else x.2) } := by
  induction members generalizing hub with
  | nil => simp [offerAll]
  | cons y members ih =>
    rw [List.map_cons, List.nodup_cons] at distinct
    simp only [offerAll, offer]
    rw [ih _ distinct.2]
    simp only [outboxes_modify, List.map_map]
    congr 1
    apply List.map_congr_left
    rintro ⟨p, b⟩ -
    -- the outbox of `y` is offered the message once, since no later member shares it
    by_cases h : p = y.queue
    · subst h
      simp only [Function.comp_apply, if_neg distinct.1, List.map_cons, List.mem_cons_self, if_true]
    · simp [h]

theorem offerAll_snd (m : Message) (members : List Member) (hub : Hub)
    (distinct : (members.map (·.queue)).Nodup) :
    (offerAll m members hub).2 = members.map fun x => (x, hub.delivery m x) := by
  induction members generalizing hub with
  | nil => rfl
  | cons y members ih =>
    rw [List.map_cons, List.nodup_cons] at distinct
    simp only [offerAll, offer, List.map_cons]
    rw [ih _ distinct.2]
    congr 1
    apply List.map_congr_left
    intro x hx
    have hne : x.queue ≠ y.queue := fun e => distinct.1 (e ▸ List.mem_map_of_mem hx)
    simp only [delivery, outbox?_modify, hne, if_false, Option.map_map]
    rfl

theorem foldl_remove (refused : List (Member × Delivery)) (hub : Hub) :
    refused.foldl (fun hub r => hub.remove r.1.id) hub =
      { hub with members := hub.members.filter fun x => x.id ∉ refused.map (·.1.id) } := by
  induction refused generalizing hub with
  | nil => simp
  | cons r refused ih =>
    rw [List.foldl_cons, ih]
    simp only [remove, List.filter_filter, List.map_cons, List.mem_cons, not_or]
    congr 1
    apply List.filter_congr
    intro x _
    by_cases h : x.id = r.1.id <;> simp [h]

/-- What holds of every hub that started empty. -/
structure Sound (hub : Hub) : Prop where
  /-- Members are told apart by their ids. -/
  distinct : (hub.members.map (·.id)).Nodup
  /-- A member's outbox is its own. -/
  owner : ∀ x ∈ hub.members, x.queue.owner = x.id
  /-- A member's outbox was numbered by the hub. -/
  issued : ∀ x ∈ hub.members, x.queue.turn < hub.registrations x.id
  /-- Outboxes were numbered by the hub. -/
  numbered : ∀ x ∈ hub.outboxes, x.1.turn < hub.registrations x.1.owner
  bounded : ∀ x ∈ hub.outboxes, x.2.Bounded

theorem sound_start (room : RoomId) : (start room).Sound := by
  constructor <;> simp [start]

namespace Sound

variable {hub : Hub}

theorem eq_of_id (h : hub.Sound) {x y : Member} (hx : x ∈ hub.members) (hy : y ∈ hub.members)
    (e : x.id = y.id) : x = y :=
  List.inj_on_of_nodup_map h.distinct hx hy e

theorem queues (h : hub.Sound) : (hub.members.map (·.queue)).Nodup := by
  refine List.Nodup.of_map QueueId.owner ?_
  rw [List.map_map]
  have : hub.members.map (QueueId.owner ∘ Member.queue) = hub.members.map (·.id) :=
    List.map_congr_left h.owner
  exact this ▸ h.distinct

/-- A broadcast offers its message to every outbox that the hub still feeds, and the members after
it are those who could take the message. -/
theorem broadcast_fst (h : hub.Sound) (visit : Visit) (m : Message) :
    (hub.broadcast visit m).1 =
      { hub with
          members := hub.members.filter fun x => hub.delivery m x = .accepted
          outboxes := hub.outboxes.map fun x =>
            (x.1, if hub.isAttached x.1 then (x.2.offer m).1 else x.2) } := by
  have visited := (visit.perm hub.members).map (·.queue)
  have distinct := visited.nodup_iff.2 h.queues
  simp only [broadcast, foldl_remove, offerAll_fst m _ hub distinct, offerAll_snd m _ hub distinct]
  congr 1
  · apply List.filter_congr
    intro x hx
    simp only [decide_eq_decide, List.filter_map, List.map_map, List.mem_map, List.mem_filter,
      Function.comp_apply, not_exists, not_and, (visit.perm _).mem_iff, decide_eq_true_eq]
    constructor
    · intro kept
      by_contra refused
      exact kept x ⟨hx, refused⟩ rfl
    · rintro accepted y ⟨hy, refused⟩ e
      exact refused (h.eq_of_id hy hx e ▸ accepted)
  · apply List.map_congr_left
    intro x _
    simp only [visited.mem_iff, isAttached_iff, List.mem_map]

/-- What becomes of a hub does not depend on the order in which it visits its members. -/
theorem handle_fst_eq (h : hub.Sound) (visit visit' : Visit) (e : Event) :
    (hub.handle visit e).1 = (hub.handle visit' e).1 := by
  cases e with
  | broadcast m => simp only [handle, h.broadcast_fst]
  | _ => rfl

end Sound

/-! ### Every event keeps a hub sound -/

/-- The connection that an event makes a member. -/
def Event.entrant? : Event → Option ConnectionId
  | .register id _ _ => some id
  | _ => none

/-- A registration brings an empty outbox, and the hub feeds it. -/
theorem outbox?_register (hub : Hub) (visit : Visit) (id : ConnectionId) (user : Identity)
    (capacity : Nat) :
    (hub.handle visit (.register id user capacity)).1.outbox? (hub.nextQueue id) =
      some (.empty capacity) := by
  simp [handle, outbox?]

theorem isAttached_register (hub : Hub) (visit : Visit) (id : ConnectionId) (user : Identity)
    (capacity : Nat) :
    (hub.handle visit (.register id user capacity)).1.isAttached (hub.nextQueue id) = true := by
  simp [handle, isAttached]

theorem registrations_eq_of_keys {hub hub' : Hub}
    (h : hub'.outboxes.map (·.1) = hub.outboxes.map (·.1)) (id : ConnectionId) :
    hub'.registrations id = hub.registrations id := by
  have count (hub : Hub) :
      hub.registrations id = (hub.outboxes.map (·.1)).countP (·.owner = id) := by
    simp [registrations, List.countP_map, Function.comp_def]
  rw [count, count, h]

theorem keys_modify (hub : Hub) (q : QueueId) (f : Outbox → Outbox) :
    (hub.modify q f).outboxes.map (·.1) = hub.outboxes.map (·.1) := by
  simp [outboxes_modify, Function.comp_def]

theorem keys_broadcast {hub : Hub} (h : hub.Sound) (visit : Visit) (m : Message) :
    (hub.broadcast visit m).1.outboxes.map (·.1) = hub.outboxes.map (·.1) := by
  simp [h.broadcast_fst, Function.comp_def]

theorem registrations_handle {hub : Hub} (h : hub.Sound) (visit : Visit) (e : Event)
    (id : ConnectionId) :
    (hub.handle visit e).1.registrations id =
      hub.registrations id + if e.entrant? = some id then 1 else 0 := by
  cases e with
  | register i user capacity =>
    simp only [handle, registrations, remove, nextQueue, List.countP_cons, Event.entrant?,
      Option.some.injEq, decide_eq_true_eq]
  | unregister i => rfl
  | broadcast m => exact registrations_eq_of_keys (keys_broadcast h visit m) id
  | inspect => rfl
  | take q => exact registrations_eq_of_keys (keys_modify hub q _) id
  | dropReceiver q => exact registrations_eq_of_keys (keys_modify hub q _) id

namespace Sound

variable {hub : Hub}

/-- Fewer members and changed outboxes do no harm. -/
theorem of_sublist (h : hub.Sound) {members : List Member} {outboxes : List (QueueId × Outbox)}
    (kept : members.Sublist hub.members)
    (keys : outboxes.map (·.1) = hub.outboxes.map (·.1)) (bounded : ∀ x ∈ outboxes, x.2.Bounded) :
    Sound { hub with members := members, outboxes := outboxes } := by
  have count (id : ConnectionId) :
      Hub.registrations { hub with members := members, outboxes := outboxes } id =
        hub.registrations id :=
    registrations_eq_of_keys keys id
  refine ⟨h.distinct.sublist (kept.map _), fun x hx => h.owner x (kept.subset hx),
    fun x hx => ?_, fun x hx => ?_, bounded⟩
  · rw [count]
    exact h.issued x (kept.subset hx)
  · rw [count]
    have : x.1 ∈ hub.outboxes.map (·.1) := keys ▸ List.mem_map_of_mem hx
    obtain ⟨y, hy, e⟩ := List.mem_map.1 this
    exact e ▸ h.numbered y hy

theorem modify (h : hub.Sound) (q : QueueId) {f : Outbox → Outbox}
    (keeps : ∀ b : Outbox, b.Bounded → (f b).Bounded) : (hub.modify q f).Sound := by
  refine h.of_sublist (.refl _) (keys_modify hub q f) fun x hx => ?_
  obtain ⟨y, hy, rfl⟩ := List.mem_map.1 hx
  dsimp only
  split_ifs
  · exact keeps _ (h.bounded y hy)
  · exact h.bounded y hy

theorem remove (h : hub.Sound) (id : ConnectionId) : (hub.remove id).Sound :=
  h.of_sublist List.filter_sublist rfl h.bounded

theorem broadcast (h : hub.Sound) (visit : Visit) (m : Message) :
    (hub.broadcast visit m).1.Sound := by
  rw [h.broadcast_fst]
  refine h.of_sublist List.filter_sublist (by simp [Function.comp_def]) fun x hx => ?_
  obtain ⟨y, hy, rfl⟩ := List.mem_map.1 hx
  dsimp only
  split_ifs
  · exact (h.bounded y hy).offer m
  · exact h.bounded y hy

theorem register (h : hub.Sound) (visit : Visit) (id : ConnectionId) (user : Identity)
    (capacity : Nat) : (hub.handle visit (.register id user capacity)).1.Sound := by
  have count (i : ConnectionId) := registrations_handle h visit (.register id user capacity) i
  have others := h.remove id
  refine ⟨?_, fun x hx => ?_, fun x hx => ?_, fun x hx => ?_, fun x hx => ?_⟩
  · simp only [handle, List.map_append, List.map_cons, List.map_nil]
    refine List.Nodup.append others.distinct (List.nodup_singleton _) ?_
    simp [Hub.remove]
  · rcases List.mem_append.1 hx with hx | hx
    · exact others.owner x hx
    · rw [List.mem_singleton.1 hx]
      rfl
  · rw [count]
    rcases List.mem_append.1 hx with hx | hx
    · exact Nat.lt_add_right _ (others.issued x hx)
    · rw [List.mem_singleton.1 hx]
      simp [Event.entrant?, nextQueue]
  · rw [count]
    rcases List.mem_cons.1 hx with rfl | hx
    · simp [Event.entrant?, nextQueue]
    · exact Nat.lt_add_right _ (h.numbered x hx)
  · rcases List.mem_cons.1 hx with rfl | hx
    · exact Outbox.bounded_empty capacity
    · exact h.bounded x hx

theorem handle (h : hub.Sound) (visit : Visit) (e : Event) : (hub.handle visit e).1.Sound := by
  cases e with
  | register id user capacity => exact h.register visit id user capacity
  | unregister id => exact h.remove id
  | broadcast m => exact h.broadcast visit m
  | inspect => exact h
  | take q => exact h.modify q fun _ => Outbox.Bounded.take
  | dropReceiver q => exact h.modify q fun _ hb => hb

theorem run (h : hub.Sound) (events : List (Event × Visit)) : (hub.run events).Sound := by
  induction events generalizing hub with
  | nil => exact h
  | cons e events ih => exact ih (h.handle e.2 e.1)

end Sound
end Hub
end RoomHub
