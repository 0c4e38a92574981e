import RoomHub.Proofs.Hub.Invariant
import RoomHub.Proofs.Sample

/-!
# Connections do not affect each other

`Hub.only id` is what a hub knows about one connection, and `Event.concerns id` says which events
are about it: the broadcasts and what the connection and its receivers do themselves.  An event that
does not concern a connection leaves its part of the hub alone (`only_handle_of_not_concerns`), and
one that does is handled as if nobody else were there (`only_handle_of_concerns`).  So two histories
that agree on what concerns a connection end alike for it (`same_for_connection`).
-/

namespace RoomHub
namespace Hub

/-- A hub as it would be if it knew one connection only. -/
def only (hub : Hub) (id : ConnectionId) : Hub :=
  { hub with
      members := hub.members.filter fun x => x.id = id
      outboxes := hub.outboxes.filter fun x => x.1.owner = id }

/-- Whether an event is about a connection. -/
def Event.concerns (id : ConnectionId) : Event → Bool
  | .register i _ _ | .unregister i => i = id
  | .broadcast _ => true
  | .inspect => false
  | .take q | .dropReceiver q => q.owner = id

/-! ### What one connection sees of an outbox -/

variable {hub : Hub} {id : ConnectionId}

theorem outbox?_only {q : QueueId} (hq : q.owner = id) : (hub.only id).outbox? q = hub.outbox? q :=
  lookup_filter_fst (fun p : QueueId => decide (p.owner = id)) hub.outboxes (by simpa using hq)

theorem registrations_only : (hub.only id).registrations id = hub.registrations id := by
  simp [registrations, only, List.countP_filter]

theorem isAttached_only (h : hub.Sound) {q : QueueId} (hq : q.owner = id) :
    (hub.only id).isAttached q = hub.isAttached q := by
  rw [Bool.eq_iff_iff, isAttached_iff, isAttached_iff]
  simp only [only, List.mem_filter, decide_eq_true_eq]
  constructor
  · rintro ⟨x, ⟨hx, -⟩, e⟩
    exact ⟨x, hx, e⟩
  · rintro ⟨x, hx, rfl⟩
    exact ⟨x, ⟨hx, (h.owner x hx).symm.trans hq⟩, rfl⟩

theorem Sound.only (h : hub.Sound) (id : ConnectionId) : (hub.only id).Sound where
  distinct := h.distinct.sublist (List.filter_sublist.map _)
  owner x hx := h.owner x (List.mem_filter.1 hx).1
  issued x hx := by
    obtain ⟨hx, e⟩ := List.mem_filter.1 hx
    rw [show x.id = id by simpa using e, registrations_only, ← show x.id = id by simpa using e]
    exact h.issued x hx
  numbered x hx := by
    obtain ⟨hx, e⟩ := List.mem_filter.1 hx
    have e : x.1.owner = id := by simpa using e
    rw [e, registrations_only, ← e]
    exact h.numbered x hx
  bounded x hx := h.bounded x (List.mem_filter.1 hx).1

/-! ### One event -/

theorem only_remove (hub : Hub) (id i : ConnectionId) :
    (hub.remove i).only id = (hub.only id).remove i := by
  simp only [only, remove, List.filter_filter]
  congr 1
  apply List.filter_congr
  intro x _
  exact Bool.and_comm _ _

theorem only_remove_of_ne (hub : Hub) {id i : ConnectionId} (hi : i ≠ id) :
    (hub.remove i).only id = hub.only id := by
  simp only [only, remove, List.filter_filter]
  congr 1
  apply List.filter_congr
  intro x _
  by_cases hx : x.id = id
  · simp [hx, hi.symm]
  · simp [hx]

theorem only_modify (q : QueueId) (f : Outbox → Outbox) :
    (hub.modify q f).only id = (hub.only id).modify q f := by
  simp only [only, modify, List.filter_map]
  congr 2
  apply List.filter_congr
  rintro ⟨p, b⟩ _
  simp only [Function.comp_apply]
  split_ifs <;> rfl

theorem only_modify_of_ne {q : QueueId} (hq : q.owner ≠ id) (f : Outbox → Outbox) :
    (hub.modify q f).only id = hub.only id := by
  rw [only_modify]
  simp only [only, modify]
  congr 1
  refine (List.map_congr_left fun x hx => ?_).trans (List.map_id _)
  have hx : x.1.owner = id := by simpa using (List.mem_filter.1 hx).2
  exact if_neg fun e : x.1 = q => hq (e ▸ hx)

theorem delivery_only {x : Member} (hx : x.queue.owner = id) (m : Message) :
    (hub.only id).delivery m x = hub.delivery m x := by
  simp only [delivery, outbox?_only hx]

/-- A broadcast reaches a connection as if it were the only one, in whatever order the members are
visited. -/
theorem only_broadcast (h : hub.Sound) (visit visit' : Visit) (m : Message) :
    (hub.broadcast visit m).1.only id = ((hub.only id).broadcast visit' m).1 := by
  rw [h.broadcast_fst, (h.only id).broadcast_fst]
  simp only [only]
  congr 1
  · rw [List.filter_filter, List.filter_filter]
    apply List.filter_congr
    intro x hx
    by_cases hid : x.id = id
    · simp only [hid, decide_true, Bool.true_and, Bool.and_true]
      rw [← delivery_only ((h.owner x hx).trans hid) m]
      rfl
    · simp [hid]
  · rw [List.filter_map]
    apply List.map_congr_left
    intro x hx
    have hx : x.1.owner = id := by simpa using (List.mem_filter.1 hx).2
    rw [← isAttached_only h hx]
    rfl

theorem only_handle_of_concerns (h : hub.Sound) (visit visit' : Visit) {e : Event}
    (he : e.concerns id = true) :
    (hub.handle visit e).1.only id = ((hub.only id).handle visit' e).1 := by
  cases e with
  | register i user capacity =>
    have hi : i = id := by simpa [Event.concerns] using he
    subst hi
    have queue : (hub.only i).nextQueue i = hub.nextQueue i := by
      simp only [nextQueue, registrations_only]
    simp only [handle, queue]
    simp [only, remove, nextQueue]
  | unregister i => exact only_remove hub id i
  | broadcast m => exact only_broadcast h visit visit' m
  | inspect => simp [Event.concerns] at he
  | take q => exact only_modify q _
  | dropReceiver q => exact only_modify q _

theorem only_handle_of_not_concerns (hub : Hub) (visit : Visit) {e : Event}
    (he : e.concerns id = false) : (hub.handle visit e).1.only id = hub.only id := by
  cases e with
  | register i user capacity =>
    have hi : i ≠ id := by simpa [Event.concerns] using he
    have others := congrArg Hub.members (only_remove_of_ne hub hi)
    simpa [handle, only, remove, nextQueue, hi] using others
  | unregister i => exact only_remove_of_ne hub (by simpa [Event.concerns] using he)
  | broadcast m => simp [Event.concerns] at he
  | inspect => rfl
  | take q => exact only_modify_of_ne (by simpa [Event.concerns] using he) _
  | dropReceiver q => exact only_modify_of_ne (by simpa [Event.concerns] using he) _

/-! ### Whole histories -/

/-- The events of a history that are about a connection. -/
def concerning (id : ConnectionId) (events : List (Event × Visit)) : List Event :=
  (events.map (·.1)).filter (Event.concerns id)

/-- A hub after events, visiting its members in the order of their registration. -/
def runInOrder (hub : Hub) (events : List Event) : Hub :=
  hub.run (events.map (·, .inOrder))

theorem only_run (h : hub.Sound) (events : List (Event × Visit)) (id : ConnectionId) :
    (hub.run events).only id = (hub.only id).runInOrder (concerning id events) := by
  induction events generalizing hub with
  | nil => rfl
  | cons e events ih =>
    refine (ih (h.handle e.2 e.1)).trans ?_
    simp only [concerning, List.map_cons]
    cases he : e.1.concerns id with
    | true =>
      rw [List.filter_cons_of_pos he, only_handle_of_concerns h e.2 .inOrder he]
      rfl
    | false =>
      rw [List.filter_cons_of_neg (by simpa using he), only_handle_of_not_concerns hub e.2 he]

theorem mem_ids_only (id : ConnectionId) :
    id ∈ (hub.only id).members.map (·.id) ↔ id ∈ hub.members.map (·.id) := by
  simp [only]

theorem taken_only (id : ConnectionId) (turn : Nat) :
    (hub.only id).taken ⟨id, turn⟩ = hub.taken ⟨id, turn⟩ := by
  have same : (hub.only id).outbox? ⟨id, turn⟩ = hub.outbox? ⟨id, turn⟩ := outbox?_only rfl
  rw [taken, taken, same]

theorem pending_only (id : ConnectionId) (turn : Nat) :
    (hub.only id).pending ⟨id, turn⟩ = hub.pending ⟨id, turn⟩ := by
  have same : (hub.only id).outbox? ⟨id, turn⟩ = hub.outbox? ⟨id, turn⟩ := outbox?_only rfl
  rw [pending, pending, same]

/-- Two histories that have the same broadcasts and the same events of one connection and its
receivers leave it a member or not alike, and each of its outboxes with the same messages taken and
pending, whatever the other connections do. -/
theorem same_for_connection (room : RoomId) (id : ConnectionId)
    (events events' : List (Event × Visit)) (agree : concerning id events = concerning id events') :
    let hub := (start room).run events
    let hub' := (start room).run events'
    (id ∈ hub.members.map (·.id) ↔ id ∈ hub'.members.map (·.id)) ∧
      ∀ turn : Nat, hub.taken ⟨id, turn⟩ = hub'.taken ⟨id, turn⟩ ∧
        hub.pending ⟨id, turn⟩ = hub'.pending ⟨id, turn⟩ := by
  intro hub hub'
  have same : hub.only id = hub'.only id := by
    rw [only_run (sound_start room), only_run (sound_start room), agree]
  refine ⟨?_, fun turn => ⟨?_, ?_⟩⟩
  · rw [← mem_ids_only, same, mem_ids_only]
  · rw [← taken_only, same, taken_only]
  · rw [← pending_only, same, pending_only]

open Sample in
/-- A stalled member that is evicted changes nothing for another one. -/
theorem same_for_connection_stalled :
    concerning annId [(.register annId ann 2, .inOrder), (.register rootId root 1, .inOrder),
        (.broadcast (saying "one"), .inOrder), (.broadcast (saying "two"), .inOrder)] =
      concerning annId [(.register annId ann 2, .inOrder),
        (.broadcast (saying "one"), .inOrder), (.broadcast (saying "two"), .inOrder)] ∧
    ((start studio).run [(.register annId ann 2, .inOrder), (.register rootId root 1, .inOrder),
        (.broadcast (saying "one"), .inOrder), (.broadcast (saying "two"), .inOrder)]).pending
          ⟨annId, 0⟩ =
      [saying "one", saying "two"] :=
  ⟨by decide, ((same_for_connection studio annId _ [(.register annId ann 2, .inOrder),
    (.broadcast (saying "one"), .inOrder), (.broadcast (saying "two"), .inOrder)]
      (by decide)).2 0).2.trans (by decide)⟩

end Hub
end RoomHub
