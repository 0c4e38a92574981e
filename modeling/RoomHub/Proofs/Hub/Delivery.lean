import RoomHub.Proofs.Hub.Invariant
import RoomHub.Proofs.Sample

/-!
# The delivery law

What a hub accepts for a connection is what is broadcast while the connection is a member.
`outbox?_handle` and `isAttached_handle` say what one event does to one outbox and to its
membership. `delivery_law` follows an outbox from the registration that brings it: `window` is the
part of the history before the connection's removal, and the messages taken and pending are the
`broadcasts` of that part.
-/

namespace RoomHub
namespace Hub

/-! ### One outbox through one event -/

/-- What an event makes of an outbox; `fed` says whether the hub puts messages into it. -/
def Event.apply (e : Event) (queue : QueueId) (fed : Bool) (b : Outbox) : Outbox :=
  match e with
  | .broadcast m => if fed then (b.offer m).1 else b
  | .take q => if queue = q then b.take else b
  | .dropReceiver q => if queue = q then b.dropReceiver else b
  | _ => b

/-- Whether the hub goes on putting messages into an outbox. -/
def Event.keeps (e : Event) (queue : QueueId) (b : Outbox) : Bool :=
  match e with
  | .register id _ _ | .unregister id => queue.owner ≠ id
  | .broadcast m => (b.offer m).2 = .accepted
  | _ => true

variable {hub : Hub} {queue : QueueId} {b : Outbox}

theorem nextQueue_ne (h : hub.Sound) (hb : hub.outbox? queue = some b) (id : ConnectionId) :
    queue ≠ hub.nextQueue id := by
  rintro rfl
  exact Nat.lt_irrefl _ (h.numbered _ (mem_of_lookup hb))

theorem outbox?_handle (h : hub.Sound) (hb : hub.outbox? queue = some b) (visit : Visit)
    (e : Event) :
    (hub.handle visit e).1.outbox? queue = some (e.apply queue (hub.isAttached queue) b) := by
  cases e with
  | register id user capacity =>
    have fresh := nextQueue_ne h hb id
    simp only [handle, outbox?, List.lookup_cons, beq_false_of_ne fresh]
    exact hb
  | unregister id => exact hb
  | broadcast m =>
    simp only [handle, outbox?, h.broadcast_fst]
    rw [lookup_map_snd fun q (b : Outbox) => if hub.isAttached q then (b.offer m).1 else b]
    exact congrArg _ hb
  | inspect => exact hb
  | take q =>
    simp only [handle, outbox?_modify, hb]
    rfl
  | dropReceiver q =>
    simp only [handle, outbox?_modify, hb]
    rfl

theorem isAttached_remove (h : hub.Sound) (queue : QueueId) (id : ConnectionId) :
    (hub.remove id).isAttached queue = (hub.isAttached queue && decide (queue.owner ≠ id)) := by
  simp only [remove, isAttached, List.any_filter]
  rw [Bool.eq_iff_iff, Bool.and_eq_true, List.any_eq_true, List.any_eq_true]
  simp only [Bool.and_eq_true, decide_eq_true_eq]
  constructor
  · rintro ⟨x, hx, hid, rfl⟩
    exact ⟨⟨x, hx, rfl⟩, h.owner x hx ▸ hid⟩
  · rintro ⟨⟨x, hx, rfl⟩, hid⟩
    exact ⟨x, hx, h.owner x hx ▸ hid, rfl⟩

theorem isAttached_handle (h : hub.Sound) (hb : hub.outbox? queue = some b) (visit : Visit)
    (e : Event) :
    (hub.handle visit e).1.isAttached queue = (hub.isAttached queue && e.keeps queue b) := by
  cases e with
  | register id user capacity =>
    have fresh := (nextQueue_ne h hb id).symm
    have others := isAttached_remove h queue id
    simp only [isAttached] at others
    simp only [handle, isAttached, List.any_append, List.any_cons, List.any_nil, fresh, others,
      decide_false, Bool.or_false, Event.keeps]
  | unregister id => exact isAttached_remove h queue id
  | broadcast m =>
    simp only [handle, h.broadcast_fst, isAttached, List.any_filter, Event.keeps]
    rw [Bool.eq_iff_iff, Bool.and_eq_true, List.any_eq_true, List.any_eq_true]
    simp only [Bool.and_eq_true, decide_eq_true_eq]
    have delivered {x : Member} (hx : x.queue = queue) : hub.delivery m x = (b.offer m).2 := by
      simp [delivery, hx, hb]
    constructor
    · rintro ⟨x, hx, taken, e⟩
      exact ⟨⟨x, hx, e⟩, delivered e ▸ taken⟩
    · rintro ⟨⟨x, hx, e⟩, taken⟩
      exact ⟨x, hx, (delivered e).trans taken, e⟩
  | inspect => simp [handle, Event.keeps]
  | take q => simp [handle, isAttached, Event.keeps]
  | dropReceiver q => simp [handle, isAttached, Event.keeps]

/-! ### After removal -/

theorem accepted_apply_of_not_fed (e : Event) (b : Outbox) :
    (e.apply queue false b).accepted = b.accepted := by
  cases e with
  | take q => simp only [Event.apply]; split_ifs <;> simp
  | dropReceiver q => simp only [Event.apply]; split_ifs <;> rfl
  | _ => simp [Event.apply]

/-- Nothing more comes into an outbox that the hub has given up. -/
theorem run_of_not_attached (h : hub.Sound) (hb : hub.outbox? queue = some b)
    (ha : hub.isAttached queue = false) (events : List (Event × Visit)) :
    ∃ b', (hub.run events).outbox? queue = some b' ∧ b'.accepted = b.accepted ∧
      (hub.run events).isAttached queue = false := by
  induction events generalizing hub b with
  | nil => exact ⟨b, hb, rfl, ha⟩
  | cons e events ih =>
    have hb' := outbox?_handle h hb e.2 e.1
    have ha' := isAttached_handle h hb e.2 e.1
    rw [ha] at hb' ha'
    obtain ⟨b', hout, hacc, hatt⟩ := ih (h.handle e.2 e.1) hb' (by simpa using ha')
    exact ⟨b', hout, hacc.trans (accepted_apply_of_not_fed e.1 b), hatt⟩

/-- What a receiver gets that goes on taking, at most `fuel` times. -/
def drain (queue : QueueId) : Nat → Hub → List Supply
  | 0, _ => []
  | fuel + 1, hub =>
    match hub.supply queue with
    | none => []
    | some .closed => [.closed]
    | some (.message m) =>
      .message m :: drain queue fuel (hub.handle .inOrder (.take queue)).1

theorem pending_eq (hb : hub.outbox? queue = some b) : hub.pending queue = b.pending := by
  simp [pending, hb]

theorem taken_append_pending_eq (hb : hub.outbox? queue = some b) :
    hub.taken queue ++ hub.pending queue = b.accepted := by
  simp [taken, pending, hb, b.taken_append_pending]

/-- The receiver of an outbox that was given up still gets what is pending, and then the end. -/
theorem drain_of_not_attached (h : hub.Sound) (hb : hub.outbox? queue = some b)
    (ha : hub.isAttached queue = false) :
    drain queue (b.pending.length + 1) hub = b.pending.map .message ++ [.closed] := by
  induction hp : b.pending generalizing hub b with
  | nil => simp [drain, supply, pending_eq hb, hp, ha]
  | cons m rest ih =>
    have hb' := outbox?_handle h hb .inOrder (.take queue)
    have ha' := isAttached_handle h hb .inOrder (.take queue)
    simp only [ha, Event.apply, if_true, Bool.false_and] at hb' ha'
    have next := ih (h.handle .inOrder (.take queue)) hb' ha' (by simp [b.pending_take, hp])
    have hs : hub.supply queue = some (.message m) := by simp [supply, pending_eq hb, hp]
    rw [List.length_cons, drain, hs]
    exact congrArg (.message m :: ·) next

/-! ### The law -/

/-- The message that an event broadcasts. -/
def Event.message? : Event → Option Message
  | .broadcast m => some m
  | _ => none

/-- The messages that are broadcast in a history. -/
def broadcasts (events : List (Event × Visit)) : List Message :=
  events.filterMap (·.1.message?)

/-- Whether an event removes the owner of an outbox for `n` messages: it asks for that, or it is a
broadcast that finds the outbox full. -/
def removes (hub : Hub) (queue : QueueId) (n : Nat) : Event → Bool
  | .unregister id => id = queue.owner
  | .broadcast _ => (hub.pending queue).length = n
  | _ => false

/-- The part of a history before the event that removes the owner of an outbox. -/
def window (queue : QueueId) (n : Nat) : Hub → List (Event × Visit) → List (Event × Visit)
  | _, [] => []
  | hub, e :: events =>
    if hub.removes queue n e.1 then [] else e :: window queue n (hub.handle e.2 e.1).1 events

@[simp] theorem broadcasts_cons (e : Event × Visit) (events : List (Event × Visit)) :
    broadcasts (e :: events) = e.1.message?.toList ++ broadcasts events := by
  cases h : e.1.message? <;> simp [broadcasts, h]

/-- As long as it has a receiver, an outbox is given up exactly by what removes its owner. -/
theorem keeps_eq_not_removes (h : hub.Sound) (hb : hub.outbox? queue = some b)
    (hr : b.receiving = true) {e : Event} (once : e.entrant? ≠ some queue.owner) :
    e.keeps queue b = !hub.removes queue b.capacity e := by
  cases e with
  | register id user capacity =>
    have : queue.owner ≠ id := fun e => once (e ▸ rfl)
    simp [Event.keeps, removes, this]
  | unregister id => simp [Event.keeps, removes, eq_comm]
  | broadcast m =>
    have bounded : b.pending.length ≤ b.capacity := h.bounded _ (mem_of_lookup hb)
    simp only [Event.keeps, removes, pending_eq hb, b.offer_eq_accepted_iff, hr, true_and]
    rw [← decide_not, decide_eq_decide]
    omega
  | _ => rfl

/-- What an outbox accepts from an event that leaves its owner a member. -/
theorem accepted_apply_of_keeps {e : Event} (hk : e.keeps queue b = true) :
    (e.apply queue true b).accepted = b.accepted ++ e.message?.toList := by
  cases e with
  | broadcast m =>
    have hk : (b.offer m).2 = .accepted := by simpa [Event.keeps] using hk
    simp [Event.apply, Event.message?, b.accepted_offer, hk]
  | take q => simp only [Event.apply]; split_ifs <;> simp [Event.message?]
  | dropReceiver q =>
    simp only [Event.apply]
    split_ifs <;> simp [Event.message?, Outbox.dropReceiver]
  | _ => simp [Event.apply, Event.message?]

theorem capacity_apply (e : Event) (fed : Bool) :
    (e.apply queue fed b).capacity = b.capacity := by
  cases e <;> simp only [Event.apply] <;> split_ifs <;> simp [Outbox.dropReceiver]

theorem receiving_apply {e : Event} (fed : Bool) (he : e ≠ .dropReceiver queue) :
    (e.apply queue fed b).receiving = b.receiving := by
  cases e with
  | dropReceiver q =>
    have : queue ≠ q := fun e => he (e ▸ rfl)
    simp [Event.apply, this]
  | _ => simp only [Event.apply] <;> split_ifs <;> simp

/-- What a broadcast that removes the owner of an outbox offers is not accepted. -/
theorem accepted_apply_of_not_keeps {e : Event} (hk : e.keeps queue b = false) :
    (e.apply queue true b).accepted = b.accepted := by
  cases e with
  | broadcast m =>
    have hk : (b.offer m).2 ≠ .accepted := by simpa [Event.keeps] using hk
    simp [Event.apply, b.accepted_offer, hk]
  | take q => simp [Event.keeps] at hk
  | dropReceiver q => simp [Event.keeps] at hk
  | _ => rfl

/-- An outbox from a moment at which the hub feeds it and its receiver is there. -/
theorem run_of_attached (h : hub.Sound) (hb : hub.outbox? queue = some b)
    (ha : hub.isAttached queue = true) (hr : b.receiving = true) (events : List (Event × Visit))
    (once : ∀ e ∈ events, e.1.entrant? ≠ some queue.owner)
    (stays : ∀ e ∈ events, e.1 ≠ .dropReceiver queue) :
    ∃ b', (hub.run events).outbox? queue = some b' ∧
      b'.accepted = b.accepted ++ broadcasts (window queue b.capacity hub events) ∧
      ((hub.run events).isAttached queue = true ↔
        window queue b.capacity hub events = events) := by
  induction events generalizing hub b with
  | nil => exact ⟨b, hb, by simp [window, broadcasts], by simp [window, run, ha]⟩
  | cons e events ih =>
    have hb' := outbox?_handle h hb e.2 e.1
    have ha' := isAttached_handle h hb e.2 e.1
    have removal := keeps_eq_not_removes h hb hr (once e List.mem_cons_self)
    rw [ha] at hb' ha'
    rw [Bool.true_and] at ha'
    cases hk : e.1.keeps queue b with
    | false =>
      -- the owner is removed: nothing more comes in
      obtain ⟨b', hout, hacc, hatt⟩ :=
        run_of_not_attached (h.handle e.2 e.1) hb' (ha'.trans hk) events
      have hw : window queue b.capacity hub (e :: events) = [] := by
        rw [window, if_pos (by simpa [hk] using removal)]
      refine ⟨b', hout, ?_, ?_⟩
      · simp [hacc, accepted_apply_of_not_keeps hk, hw, broadcasts]
      · rw [hw]
        simpa [run] using hatt
    | true =>
      obtain ⟨b', hout, hacc, hatt⟩ :=
        ih (h.handle e.2 e.1) hb' (ha'.trans hk)
          ((receiving_apply true (stays e List.mem_cons_self)).trans hr)
          (fun x hx => once x (List.mem_cons_of_mem _ hx))
          (fun x hx => stays x (List.mem_cons_of_mem _ hx))
      rw [capacity_apply] at hacc hatt
      have hw : window queue b.capacity hub (e :: events) =
          e :: window queue b.capacity (hub.handle e.2 e.1).1 events := by
        rw [window, if_neg (by simpa [hk] using removal)]
      refine ⟨b', hout, ?_, ?_⟩
      · rw [hacc, accepted_apply_of_keeps hk, hw, broadcasts_cons, List.append_assoc]
      · rw [hw, List.cons_inj_right]
        exact hatt

/-! ### From the registration on -/

theorem registrations_run (h : hub.Sound) (events : List (Event × Visit)) (id : ConnectionId) :
    (hub.run events).registrations id =
      hub.registrations id + events.countP (·.1.entrant? = some id) := by
  induction events generalizing hub with
  | nil => rfl
  | cons e events ih =>
    refine (ih (h.handle e.2 e.1)).trans ?_
    rw [registrations_handle h, List.countP_cons]
    simp only [decide_eq_true_eq]
    omega

/-- No event changes how much an outbox may hold. -/
theorem capacity_run (h : hub.Sound) (hb : hub.outbox? queue = some b)
    (events : List (Event × Visit)) :
    ∃ b', (hub.run events).outbox? queue = some b' ∧ b'.capacity = b.capacity := by
  induction events generalizing hub b with
  | nil => exact ⟨b, hb, rfl⟩
  | cons e events ih =>
    obtain ⟨b', hout, hcap⟩ := ih (h.handle e.2 e.1) (outbox?_handle h hb e.2 e.1)
    exact ⟨b', hout, hcap.trans (capacity_apply e.1 _)⟩

/-- A connection that was registered once is a member exactly if the hub feeds its one outbox. -/
theorem mem_ids_iff_isAttached (h : hub.Sound) {id : ConnectionId}
    (once : hub.registrations id = 1) :
    id ∈ hub.members.map (·.id) ↔ hub.isAttached ⟨id, 0⟩ = true := by
  rw [isAttached_iff, List.mem_map]
  constructor
  · rintro ⟨x, hx, rfl⟩
    have turn : x.queue.turn = 0 := by
      have := h.issued x hx
      omega
    exact ⟨x, hx, by rw [← turn, ← h.owner x hx]⟩
  · rintro ⟨x, hx, e⟩
    exact ⟨x, hx, by rw [← h.owner x hx, e]⟩

/-- A connection that is registered once, with room for `n` messages: at most `n` wait for it; while
its receiver is there, what it has taken and what waits is what was broadcast before its removal, in
that order; and after its removal the receiver gets what waits and then the end, and nothing is
added. -/
theorem delivery_law (room : RoomId) (before after : List (Event × Visit)) (id : ConnectionId)
    (user : Identity) (capacity : Nat) (visit : Visit)
    (once : ∀ e ∈ before ++ after, e.1.entrant? ≠ some id) :
    let n := max capacity 1
    let queue : QueueId := ⟨id, 0⟩
    let entered := (start room).run (before ++ [(.register id user capacity, visit)])
    let hub := entered.run after
    let stay := window queue n entered after
    (hub.pending queue).length ≤ n ∧
      ((∀ e ∈ after, e.1 ≠ .dropReceiver queue) →
        hub.taken queue ++ hub.pending queue = broadcasts stay ∧
          (id ∈ hub.members.map (·.id) ↔ stay = after)) ∧
      (id ∉ hub.members.map (·.id) →
        drain queue ((hub.pending queue).length + 1) hub =
            (hub.pending queue).map .message ++ [.closed] ∧
          ∀ more : List (Event × Visit),
            (hub.run more).taken queue ++ (hub.run more).pending queue =
              hub.taken queue ++ hub.pending queue) := by
  intro n queue entered hub stay
  have absent : ∀ e ∈ before, e.1.entrant? ≠ some id :=
    fun e he => once e (List.mem_append_left _ he)
  have later : ∀ e ∈ after, e.1.entrant? ≠ some id :=
    fun e he => once e (List.mem_append_right _ he)
  have early : ((start room).run before).Sound := (sound_start room).run before
  have first : ((start room).run before).registrations id = 0 := by
    rw [registrations_run (sound_start room), List.countP_eq_zero.2 (by simpa using absent)]
    rfl
  have entering : entered =
      (((start room).run before).handle visit (.register id user capacity)).1 := by
    simp [entered, run]
  have sound : entered.Sound := entering ▸ early.handle visit _
  have outbox : entered.outbox? queue = some (.empty capacity) := by
    rw [entering]
    simp [handle, outbox?, nextQueue, first, queue]
  have attached : entered.isAttached queue = true := by
    rw [entering]
    simp [handle, isAttached, nextQueue, first, queue]
  have registered : hub.registrations id = 1 := by
    rw [registrations_run sound, List.countP_eq_zero.2 (by simpa using later), entering,
      registrations_handle early, first]
    simp [Event.entrant?]
  have member := mem_ids_iff_isAttached (sound.run after) registered
  obtain ⟨b, hb, hcap⟩ := capacity_run sound outbox after
  refine ⟨?_, fun there => ?_, fun removed => ?_⟩
  · rw [pending_eq hb]
    exact le_of_le_of_eq ((sound.run after).bounded _ (mem_of_lookup hb)) hcap
  · obtain ⟨b', hb', hacc, hatt⟩ := run_of_attached sound outbox attached rfl after later there
    exact ⟨by rw [taken_append_pending_eq hb', hacc]; rfl, member.trans hatt⟩
  · have unfed : hub.isAttached queue = false :=
      eq_false_of_ne_true fun fed => removed (member.2 fed)
    refine ⟨by rw [pending_eq hb]; exact drain_of_not_attached (sound.run after) hb unfed,
      fun more => ?_⟩
    obtain ⟨b', hb', hacc, -⟩ := run_of_not_attached (sound.run after) hb unfed more
    rw [taken_append_pending_eq hb', taken_append_pending_eq hb, hacc]

open Sample in
/-- The second of two broadcasts finds an outbox for one message full: only the first arrives. -/
theorem delivery_law_full :
    (∀ e ∈ [(Event.register rootId root 4, Visit.inOrder)] ++
        [(.broadcast (saying "one"), .inOrder), (.inspect, .inOrder),
          (.broadcast (saying "two"), .inOrder), (.take ⟨annId, 0⟩, .inOrder)],
      e.1.entrant? ≠ some annId) ∧
    let hub := ((start studio).run ([(.register rootId root 4, .inOrder)] ++
      [(.register annId ann 0, .inOrder)])).run
        [(.broadcast (saying "one"), .inOrder), (.inspect, .inOrder),
          (.broadcast (saying "two"), .inOrder), (.take ⟨annId, 0⟩, .inOrder)]
    hub.taken ⟨annId, 0⟩ ++ hub.pending ⟨annId, 0⟩ = [saying "one"] :=
  ⟨by decide, ((delivery_law studio _ _ annId ann 0 .inOrder (by decide)).2.1
    (by decide)).1.trans (by decide)⟩

end Hub
end RoomHub
