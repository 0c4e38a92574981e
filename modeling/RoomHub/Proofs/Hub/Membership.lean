import Mathlib.Data.List.Nodup
import RoomHub.Proofs.Hub.Isolation
import RoomHub.Proofs.Server.Changes

/-!
# Who is a member

A connection is a member of a hub exactly if the history says so (`Enrolled`): it was registered
and, since its last registration, it was not unregistered and every broadcast found room in its
outbox.  Registrations and unregistrations of different connections do not disturb each other
(`Alike.handle`, `Alike.handle_of_other`), so producers that look after connections of their own
leave the same members behind however their events are interleaved, as long as no broadcast finds an
outbox full or closed (`membership_converges`).
-/

namespace RoomHub
namespace Hub

/-- The connection that an event registers or unregisters. -/
def Event.subject? : Event → Option ConnectionId
  | .register id _ _ | .unregister id => some id
  | _ => none

theorem Event.subject?_of_entrant {e : Event} {id : ConnectionId}
    (entering : e.entrant? = some id) : e.subject? = some id := by
  cases e with
  | register i user capacity => exact entering
  | _ => cases entering

/-- Whether an outbox has a receiver and room for a message: it is neither closed nor full. -/
def hasRoom (hub : Hub) (queue : QueueId) : Bool :=
  (hub.outbox? queue).any fun b => b.receiving && decide (b.pending.length < b.capacity)

variable {hub hub' : Hub} {queue : QueueId} {b : Outbox} {id : ConnectionId}

theorem delivery_eq_accepted_iff (hub : Hub) (m : Message) (x : Member) :
    hub.delivery m x = .accepted ↔ hub.hasRoom x.queue = true := by
  unfold delivery hasRoom
  cases hub.outbox? x.queue with
  | none => simp
  | some b => simp [b.offer_eq_accepted_iff]

/-- After a broadcast those are members who had room for its message. -/
theorem members_broadcast (h : hub.Sound) (visit : Visit) (m : Message) :
    (hub.broadcast visit m).1.members = hub.members.filter fun x => hub.hasRoom x.queue := by
  rw [h.broadcast_fst]
  apply List.filter_congr
  intro x _
  rw [Bool.eq_iff_iff, decide_eq_true_eq, delivery_eq_accepted_iff]

theorem remove_of_not_mem (absent : id ∉ hub.members.map (·.id)) : hub.remove id = hub := by
  unfold remove
  rw [List.filter_eq_self.2]
  intro x hx
  simpa using fun e : x.id = id => absent (e ▸ List.mem_map_of_mem hx)

/-- To unregister a connection that is no member changes nothing. -/
theorem handle_unregister_of_not_mem (absent : id ∉ hub.members.map (·.id)) (visit : Visit) :
    hub.handle visit (.unregister id) = (hub, []) := by
  have nobody : (hub.members.any fun x => decide (x.id = id)) = false := by
    rw [List.any_eq_false]
    intro x hx
    simpa using fun e : x.id = id => absent (e ▸ List.mem_map_of_mem hx)
  simp only [handle, remove_of_not_mem absent, nobody]
  rfl

theorem running_run (hub : Hub) (events : List (Event × Visit)) :
    (hub.run events).room = hub.room ∧ (hub.run events).running = hub.running := by
  induction events generalizing hub with
  | nil => exact ⟨rfl, rfl⟩
  | cons e events ih =>
    have first := room_handle hub e.2 e.1
    have rest := ih (hub.handle e.2 e.1).1
    exact ⟨rest.1.trans first.1, rest.2.trans first.2⟩

theorem run_append (hub : Hub) (events more : List (Event × Visit)) :
    hub.run (events ++ more) = (hub.run events).run more :=
  List.foldl_append

/-! ### Which outbox a member has -/

/-- Every member has the outbox of its last registration. -/
structure Current (hub : Hub) : Prop where
  last : ∀ x ∈ hub.members, x.queue.turn + 1 = hub.registrations x.id
  there : ∀ x ∈ hub.members, ∃ b, hub.outbox? x.queue = some b

/-- A member after an event is one that has just been registered, or it was one before. -/
theorem mem_members_handle (h : hub.Sound) (visit : Visit) (e : Event) {x : Member}
    (hx : x ∈ (hub.handle visit e).1.members) :
    (x.queue = hub.nextQueue x.id ∧ e.entrant? = some x.id) ∨
      (x ∈ hub.members ∧ e.entrant? ≠ some x.id) := by
  have nobody : none ≠ some x.id := (Option.some_ne_none x.id).symm
  cases e with
  | register i user capacity =>
    simp only [handle, remove, List.mem_append, List.mem_filter, decide_eq_true_eq,
      List.mem_singleton] at hx
    rcases hx with ⟨hx, other⟩ | rfl
    · exact .inr ⟨hx, fun e => other (Option.some.inj e).symm⟩
    · exact .inl ⟨rfl, rfl⟩
  | unregister i => exact .inr ⟨(List.mem_filter.1 hx).1, nobody⟩
  | broadcast m =>
    simp only [handle, members_broadcast h] at hx
    exact .inr ⟨(List.mem_filter.1 hx).1, nobody⟩
  | inspect => exact .inr ⟨hx, nobody⟩
  | take q => exact .inr ⟨hx, nobody⟩
  | dropReceiver q => exact .inr ⟨hx, nobody⟩

theorem outbox?_of_entrant (hub : Hub) (visit : Visit) {e : Event}
    (entering : e.entrant? = some id) :
    ∃ b, (hub.handle visit e).1.outbox? (hub.nextQueue id) = some b := by
  cases e with
  | register i user capacity =>
    cases entering
    exact ⟨_, hub.outbox?_register visit id user capacity⟩
  | _ => cases entering

theorem Current.handle (current : hub.Current) (h : hub.Sound) (visit : Visit) (e : Event) :
    (hub.handle visit e).1.Current where
  last x hx := by
    rw [registrations_handle h]
    rcases mem_members_handle h visit e hx with ⟨new, entering⟩ | ⟨old, other⟩
    · rw [new, if_pos entering]
      rfl
    · rw [if_neg other]
      exact current.last x old
  there x hx := by
    rcases mem_members_handle h visit e hx with ⟨new, entering⟩ | ⟨old, -⟩
    · rw [new]
      exact outbox?_of_entrant hub visit entering
    · obtain ⟨b, hb⟩ := current.there x old
      exact ⟨_, outbox?_handle h hb visit e⟩

theorem Current.run (current : hub.Current) (h : hub.Sound) (events : List (Event × Visit)) :
    (hub.run events).Current := by
  induction events generalizing hub with
  | nil => exact current
  | cons e events ih => exact ih (current.handle h e.2 e.1) (h.handle e.2 e.1)

theorem current_start (room : RoomId) : (start room).Current := by
  constructor <;> simp [start]

/-- A connection is a member exactly if the hub feeds the outbox of its last registration. -/
theorem Current.mem_ids_iff (current : hub.Current) (h : hub.Sound) {turn : Nat}
    (last : hub.registrations id = turn + 1) :
    id ∈ hub.members.map (·.id) ↔ hub.isAttached ⟨id, turn⟩ = true := by
  rw [isAttached_iff, List.mem_map]
  constructor
  · rintro ⟨x, hx, rfl⟩
    have numbered : x.queue.turn = turn := by
      have := current.last x hx
      omega
    exact ⟨x, hx, by rw [← numbered, ← h.owner x hx]⟩
  · rintro ⟨x, hx, e⟩
    exact ⟨x, hx, by rw [← h.owner x hx, e]⟩

/-! ### From the last registration on -/

/-- Whether an event leaves the owner of an outbox a member. -/
def Retains (hub : Hub) (queue : QueueId) (e : Event) : Prop :=
  e.subject? ≠ some queue.owner ∧ (e.message?.isSome = true → hub.hasRoom queue = true)

theorem keeps_iff_retains (hb : hub.outbox? queue = some b) (e : Event) :
    e.keeps queue b = true ↔ hub.Retains queue e := by
  cases e with
  | register i user capacity =>
    simpa [Event.keeps, Retains, Event.subject?, Event.message?] using ne_comm
  | unregister i => simpa [Event.keeps, Retains, Event.subject?, Event.message?] using ne_comm
  | broadcast m =>
    simp [Event.keeps, Retains, Event.subject?, Event.message?, hasRoom, hb,
      b.offer_eq_accepted_iff]
  | inspect => simp [Event.keeps, Retains, Event.subject?, Event.message?]
  | take q => simp [Event.keeps, Retains, Event.subject?, Event.message?]
  | dropReceiver q => simp [Event.keeps, Retains, Event.subject?, Event.message?]

/-- An outbox is fed after events exactly if it was before and every one of them has let it be. -/
theorem isAttached_run_iff (h : hub.Sound) (hb : hub.outbox? queue = some b)
    (events : List (Event × Visit)) :
    (hub.run events).isAttached queue = true ↔
      hub.isAttached queue = true ∧
        ∀ during e rest, events = during ++ e :: rest → (hub.run during).Retains queue e.1 := by
  induction events generalizing hub b with
  | nil => simp [run]
  | cons e events ih =>
    have later := ih (h.handle e.2 e.1) (outbox?_handle h hb e.2 e.1)
    rw [isAttached_handle h hb, Bool.and_eq_true, keeps_iff_retains hb, and_assoc] at later
    refine later.trans (and_congr_right fun _ => ?_)
    constructor
    · rintro ⟨first, others⟩ during x rest split
      cases during with
      | nil =>
        cases split
        exact first
      | cons y during =>
        cases split
        exact others during x rest rfl
    · intro all
      refine ⟨all [] e events rfl, fun during x rest split => ?_⟩
      exact all (e :: during) x rest (by rw [split, List.cons_append])

/-- A connection was registered in the history of a room and, since its last registration, it was
not unregistered, and no broadcast has found its outbox full or closed. -/
def Enrolled (room : RoomId) (events : List (Event × Visit)) (id : ConnectionId) : Prop :=
  ∃ before user capacity visit after,
    events = before ++ (.register id user capacity, visit) :: after ∧
      (∀ e ∈ after, e.1.subject? ≠ some id) ∧
      ∀ during m v rest, after = during ++ (.broadcast m, v) :: rest →
        ((start room).run (before ++ (.register id user capacity, visit) :: during)).hasRoom
          ⟨id, before.countP (·.1.entrant? = some id)⟩ = true

theorem registrations_start (room : RoomId) (events : List (Event × Visit)) (id : ConnectionId) :
    ((start room).run events).registrations id = events.countP (·.1.entrant? = some id) := by
  rw [registrations_run (sound_start room)]
  exact Nat.zero_add _

/-- A history in which a connection is registered has a last registration of it. -/
theorem exists_last_registration {events : List (Event × Visit)}
    (registered : ∃ e ∈ events, e.1.entrant? = some id) :
    ∃ before user capacity visit after,
      events = before ++ (.register id user capacity, visit) :: after ∧
        ∀ e ∈ after, e.1.entrant? ≠ some id := by
  induction events with
  | nil => simp at registered
  | cons e events ih =>
    by_cases later : ∃ e ∈ events, e.1.entrant? = some id
    · obtain ⟨before, user, capacity, visit, after, rfl, quiet⟩ := ih later
      exact ⟨e :: before, user, capacity, visit, after, rfl, quiet⟩
    · obtain ⟨e, visit⟩ := e
      have here : e.entrant? = some id := by
        obtain ⟨x, hx, found⟩ := registered
        rcases List.mem_cons.1 hx with rfl | hx
        · exact found
        · exact absurd ⟨x, hx, found⟩ later
      cases e with
      | register i user capacity =>
        cases here
        exact ⟨[], user, capacity, visit, events, rfl, fun x hx found => later ⟨x, hx, found⟩⟩
      | _ => cases here

/-- What a history makes of a connection that is not registered again. -/
theorem mem_ids_run_iff (room : RoomId) (before after : List (Event × Visit)) (user : Identity)
    (capacity : Nat) (visit : Visit) (last : ∀ e ∈ after, e.1.entrant? ≠ some id) :
    let entered := before ++ [(Event.register id user capacity, visit)]
    id ∈ ((start room).run (entered ++ after)).members.map (·.id) ↔
      ∀ during e rest, after = during ++ e :: rest →
        ((start room).run (entered ++ during)).Retains
          ⟨id, before.countP (·.1.entrant? = some id)⟩ e.1 := by
  intro entered
  have sound (events : List (Event × Visit)) : ((start room).run events).Sound :=
    (sound_start room).run events
  set turn := before.countP (·.1.entrant? = some id) with hturn
  have entering : (start room).run entered =
      (((start room).run before).handle visit (.register id user capacity)).1 := by
    simp [entered, run]
  have numbered : ((start room).run before).nextQueue id = ⟨id, turn⟩ := by
    rw [nextQueue, registrations_start]
  have outbox : ((start room).run entered).outbox? ⟨id, turn⟩ = some (.empty capacity) := by
    rw [entering, ← numbered]
    exact outbox?_register ..
  have attached : ((start room).run entered).isAttached ⟨id, turn⟩ = true := by
    rw [entering, ← numbered]
    exact isAttached_register ..
  have never : after.countP (·.1.entrant? = some id) = 0 :=
    List.countP_eq_zero.2 (by simpa using last)
  have count : ((start room).run (entered ++ after)).registrations id = turn + 1 := by
    rw [registrations_start, List.countP_append, List.countP_append, ← hturn, never]
    simp [Event.entrant?]
  rw [((current_start room).run (sound_start room) _).mem_ids_iff (sound _) count, run_append,
    isAttached_run_iff (sound _) outbox after]
  simp only [attached, true_and, run_append]

/-- The members of a hub are those whom its history has enrolled. -/
theorem mem_ids_iff_enrolled (room : RoomId) (events : List (Event × Visit)) (id : ConnectionId) :
    id ∈ ((start room).run events).members.map (·.id) ↔ Enrolled room events id := by
  constructor
  · intro member
    have registered : ∃ e ∈ events, e.1.entrant? = some id := by
      obtain ⟨x, hx, rfl⟩ := List.mem_map.1 member
      have issued := ((sound_start room).run events).issued x hx
      rw [registrations_start] at issued
      simpa using List.countP_pos_iff.1 (Nat.zero_lt_of_lt issued)
    obtain ⟨before, user, capacity, visit, after, rfl, last⟩ := exists_last_registration registered
    rw [List.append_cons] at member
    have retained := (mem_ids_run_iff room before after user capacity visit last).1 member
    refine ⟨before, user, capacity, visit, after, rfl, fun e he => ?_,
      fun during m v rest split => ?_⟩
    · obtain ⟨during, rest, split⟩ := List.append_of_mem he
      exact (retained during e rest split).1
    · rw [List.append_cons]
      exact (retained during (.broadcast m, v) rest split).2 rfl
  · rintro ⟨before, user, capacity, visit, after, rfl, quiet, roomy⟩
    have last : ∀ e ∈ after, e.1.entrant? ≠ some id :=
      fun e he entering => quiet e he (Event.subject?_of_entrant entering)
    rw [List.append_cons]
    refine (mem_ids_run_iff room before after user capacity visit last).2 ?_
    rintro during ⟨e, v⟩ rest split
    refine ⟨quiet _ (split ▸ List.mem_append_right _ List.mem_cons_self), fun broadcast => ?_⟩
    cases e with
    | broadcast m =>
      have found := roomy during m v rest split
      rwa [List.append_cons] at found
    | _ => cases broadcast

/-! ### Producers -/

/-- Two hubs have registered a connection equally often and have the same member of its id. -/
structure Alike (id : ConnectionId) (hub hub' : Hub) : Prop where
  members : hub.members.filter (·.id = id) = hub'.members.filter (·.id = id)
  registrations : hub.registrations id = hub'.registrations id

theorem Alike.handle (alike : Alike id hub hub') (h : hub.Sound) (h' : hub'.Sound)
    (visit visit' : Visit) {e : Event} (own : e.subject? = some id) :
    Alike id (hub.handle visit e).1 (hub'.handle visit' e).1 where
  members := by
    cases e with
    | register i user capacity =>
      cases own
      simp [Hub.handle, nextQueue, Hub.remove, List.filter_append, List.filter_filter,
        alike.registrations]
    | unregister i =>
      cases own
      simp [Hub.handle, Hub.remove, List.filter_filter]
    | _ => cases own
  registrations := by rw [registrations_handle h, registrations_handle h', alike.registrations]

/-- Nothing else changes the membership of a connection, unless it is a broadcast that somebody has
no room for. -/
theorem Alike.handle_of_other (alike : Alike id hub hub') (h : hub.Sound) (visit : Visit)
    {e : Event} (other : e.subject? ≠ some id)
    (room : e.message?.isSome = true → ∀ x ∈ hub.members, hub.hasRoom x.queue = true) :
    Alike id (hub.handle visit e).1 hub' where
  members := by
    rw [← alike.members]
    cases e with
    | register i user capacity =>
      have distinct : i ≠ id := fun e => other (e ▸ rfl)
      have others := congrArg Hub.members (only_remove_of_ne hub distinct)
      simpa [Hub.handle, only, Hub.remove, nextQueue, distinct] using others
    | unregister i =>
      have distinct : i ≠ id := fun e => other (e ▸ rfl)
      exact congrArg Hub.members (only_remove_of_ne hub distinct)
    | broadcast m =>
      simp only [Hub.handle, members_broadcast h]
      rw [List.filter_eq_self.2 (room rfl)]
    | _ => rfl
  registrations := by
    rw [registrations_handle h, if_neg fun entering => other (Event.subject?_of_entrant entering)]
    exact alike.registrations

/-- No broadcast of a history finds an outbox of a member full or closed. -/
def Unhindered : Hub → List (Event × Visit) → Prop
  | _, [] => True
  | hub, e :: events =>
    (e.1.message?.isSome = true → ∀ x ∈ hub.members, hub.hasRoom x.queue = true) ∧
      Unhindered (hub.handle e.2 e.1).1 events

instance decidableUnhindered :
    (hub : Hub) → (events : List (Event × Visit)) → Decidable (Unhindered hub events)
  | _, [] => inferInstanceAs (Decidable True)
  | hub, e :: events =>
    have := decidableUnhindered (hub.handle e.2 e.1).1 events
    inferInstanceAs (Decidable (_ ∧ _))

/-- What an unhindered history makes of a connection is decided by its registrations and
unregistrations. -/
theorem Alike.run (alike : Alike id hub hub') (h : hub.Sound) (h' : hub'.Sound)
    {events : List (Event × Visit)} (free : Unhindered hub events) :
    Alike id (hub.run events)
      (hub'.runInOrder ((events.map (·.1)).filter (·.subject? = some id))) := by
  induction events generalizing hub hub' with
  | nil => exact alike
  | cons e events ih =>
    have sound := h.handle e.2 e.1
    rw [List.map_cons]
    -- both hubs take an event about the connection; any other is a step of the first hub alone
    by_cases own : e.1.subject? = some id
    · rw [List.filter_cons_of_pos (by simpa using own)]
      exact ih (alike.handle h h' e.2 .inOrder own) sound (h'.handle .inOrder e.1) free.2
    · rw [List.filter_cons_of_neg (by simpa using own)]
      exact ih (alike.handle_of_other h e.2 own free.1) sound h' free.2

variable {σ : Type} [DecidableEq σ]

/-- What a sender has sent in a history, in order. -/
def sentBy (sender : σ) (history : List (σ × Event × Visit)) : List Event :=
  (history.filter (·.1 = sender)).map (·.2.1)

/-- The registrations and unregistrations of a connection in a history are those that the one who
looks after it has sent. -/
theorem filter_subject_eq_sentBy {sender : σ} {history : List (σ × Event × Visit)}
    (looks : ∀ x ∈ history, x.2.1.subject? = some id → x.1 = sender) :
    ((history.map (·.2)).map (·.1)).filter (·.subject? = some id) =
      (sentBy sender history).filter (·.subject? = some id) := by
  rw [sentBy, List.map_map, List.filter_map, List.filter_map, List.filter_filter]
  congr 1
  apply List.filter_congr
  intro x hx
  by_cases own : x.2.1.subject? = some id
  · simp [own, looks x hx own]
  · simp [own]

/-- A history in which the events of producers come in the order of each of them, every event with
its sender.  Others, who have no name, neither register nor unregister anybody, and no broadcast
finds an outbox full or closed. -/
structure Interleaves {ι : Type} [DecidableEq ι] (room : RoomId) (producers : ι → List Event)
    (history : List (Option ι × Event × Visit)) : Prop where
  ordered : ∀ p, sentBy (some p) history = producers p
  others : ∀ x ∈ history, x.1 = none → x.2.1.subject? = none
  unhindered : Unhindered (start room) (history.map (·.2))

variable {ι : Type} [DecidableEq ι] {producers : ι → List Event} {room : RoomId}

theorem Interleaves.mem_of_sender {history : List (Option ι × Event × Visit)}
    (woven : Interleaves room producers history) {x : Option ι × Event × Visit} (hx : x ∈ history)
    {p : ι} (sender : x.1 = some p) : x.2.1 ∈ producers p := by
  rw [← woven.ordered p, sentBy]
  exact List.mem_map.2 ⟨x, List.mem_filter.2 ⟨hx, by simpa using sender⟩, rfl⟩

/-- If no two producers look after the same connection, all interleavings have the same
registrations and unregistrations of each connection, in the same order. -/
theorem Interleaves.filter_subject_eq {history history' : List (Option ι × Event × Visit)}
    (woven : Interleaves room producers history) (woven' : Interleaves room producers history')
    (apart : ∀ p p', ∀ e ∈ producers p, ∀ e' ∈ producers p', e.subject? = e'.subject? →
      e.subject? = none ∨ p = p')
    (id : ConnectionId) :
    ((history.map (·.2)).map (·.1)).filter (·.subject? = some id) =
      ((history'.map (·.2)).map (·.1)).filter (·.subject? = some id) := by
  by_cases known : ∃ p, ∃ e ∈ producers p, e.subject? = some id
  · obtain ⟨p, e, he, own⟩ := known
    have looks {history : List (Option ι × Event × Visit)}
        (woven : Interleaves room producers history) :
        ∀ x ∈ history, x.2.1.subject? = some id → x.1 = some p := by
      intro x hx found
      cases sender : x.1 with
      | none => simp [woven.others x hx sender] at found
      | some p' =>
        have sent := woven.mem_of_sender hx sender
        rcases apart p p' e he _ sent (own.trans found.symm) with no | same
        · cases own.symm.trans no
        · rw [same]
    rw [filter_subject_eq_sentBy (looks woven), filter_subject_eq_sentBy (looks woven'),
      woven.ordered, woven'.ordered]
  · have nobody {history : List (Option ι × Event × Visit)}
        (woven : Interleaves room producers history) :
        ((history.map (·.2)).map (·.1)).filter (·.subject? = some id) = [] := by
      rw [List.filter_eq_nil_iff]
      simp only [List.map_map, List.mem_map, Function.comp_apply, decide_eq_true_eq]
      rintro e ⟨x, hx, rfl⟩ found
      cases sender : x.1 with
      | none => simp [woven.others x hx sender] at found
      | some p => exact known ⟨p, x.2.1, woven.mem_of_sender hx sender, found⟩
    rw [nobody woven, nobody woven']

/-- Members are told apart by their ids: hubs that are alike for every id have the same members. -/
theorem perm_of_alike (h : hub.Sound) (h' : hub'.Sound)
    (alike : ∀ id, hub.members.filter (·.id = id) = hub'.members.filter (·.id = id)) :
    hub.members.Perm hub'.members := by
  refine (List.perm_ext_iff_of_nodup (h.distinct.of_map _) (h'.distinct.of_map _)).2 fun x => ?_
  have same := congrArg (x ∈ ·) (alike x.id)
  simpa using same

/-- The snapshot of a hub names each connection once, namely those that its history has enrolled,
and to unregister another one changes nothing.  So producers that register and unregister
connections of their own leave the same members behind in any two interleavings in which no
broadcast finds an outbox full or closed. -/
theorem membership_converges (room : RoomId) :
    (∀ events : List (Event × Visit),
      let hub := (start room).run events
      (∀ s : Server, s.hub? room = some hub →
        ∃ snapshot, s.members room = .ok snapshot ∧ snapshot.Perm hub.members ∧
          (snapshot.map (·.id)).Nodup ∧
          ∀ id, id ∈ snapshot.map (·.id) ↔ Enrolled room events id) ∧
      ∀ id visit, ¬ Enrolled room events id → hub.handle visit (.unregister id) = (hub, [])) ∧
    ∀ {ι : Type} [DecidableEq ι] (producers : ι → List Event)
      (history history' : List (Option ι × Event × Visit)),
      (∀ p p', ∀ e ∈ producers p, ∀ e' ∈ producers p', e.subject? = e'.subject? →
        e.subject? = none ∨ p = p') →
      Interleaves room producers history → Interleaves room producers history' →
      ((start room).run (history.map (·.2))).members.Perm
        ((start room).run (history'.map (·.2))).members := by
  refine ⟨fun events => ?_, fun producers history history' apart woven woven' => ?_⟩
  · intro hub
    have sound : hub.Sound := (sound_start room).run events
    refine ⟨fun s known => ?_, fun id visit stranger => ?_⟩
    · have sorted : (hub.members.mergeSort Server.memberBefore).Perm hub.members :=
        List.mergeSort_perm _ _
      refine ⟨_, ?_, sorted, (sorted.map _).nodup_iff.2 sound.distinct, fun id => ?_⟩
      · have running : hub.running = true := (running_run (start room) events).2
        simp only [Server.members, known, running, if_true]
      · rw [(sorted.map _).mem_iff]
        exact mem_ids_iff_enrolled room events id
    · exact handle_unregister_of_not_mem (fun member =>
        stranger ((mem_ids_iff_enrolled room events id).1 member)) visit
  · -- either history is as good as the registrations and unregistrations alone
    have sound : (start room).Sound := sound_start room
    refine perm_of_alike (sound.run _) (sound.run _) fun id => ?_
    have both : Alike id (start room) (start room) := ⟨rfl, rfl⟩
    rw [(both.run sound sound woven.unhindered).members,
      (both.run sound sound woven'.unhindered).members, woven.filter_subject_eq woven' apart]

open Sample in
/-- Two producers: one lets `ann` come and go while somebody speaks, the other lets `root` come. -/
def shifts : Bool → List Event
  | true => [.register annId ann 4, .broadcast (saying "one"), .unregister annId]
  | false => [.register rootId root 4, .broadcast (saying "two")]

open Sample in
/-- Whether the two producers work one after the other or by turns, `root` remains. -/
theorem membership_converges_shifts :
    let apart : List (Option Bool × Event × Visit) :=
      [(some true, .register annId ann 4, .inOrder),
        (some true, .broadcast (saying "one"), .inOrder),
        (none, .take ⟨annId, 0⟩, .inOrder), (some true, .unregister annId, .inOrder),
        (some false, .register rootId root 4, .inOrder),
        (some false, .broadcast (saying "two"), .inOrder)]
    let byTurns : List (Option Bool × Event × Visit) :=
      [(some false, .register rootId root 4, .inOrder),
        (some true, .register annId ann 4, .inOrder),
        (some false, .broadcast (saying "two"), .inOrder),
        (some true, .broadcast (saying "one"), .inOrder), (some true, .unregister annId, .inOrder)]
    Interleaves studio shifts apart ∧ Interleaves studio shifts byTurns ∧
      ((start studio).run (apart.map (·.2))).members.Perm
        ((start studio).run (byTurns.map (·.2))).members ∧
      ¬ Enrolled studio (apart.map (·.2)) annId ∧
      ((start studio).run (apart.map (·.2))).handle .inOrder (.unregister annId) =
        ((start studio).run (apart.map (·.2)), []) := by
  intro apart byTurns
  have first : Interleaves studio shifts apart := ⟨by decide, by decide, by decide⟩
  have second : Interleaves studio shifts byTurns := ⟨by decide, by decide, by decide⟩
  have left : ¬ Enrolled studio (apart.map (·.2)) annId := by
    rw [← mem_ids_iff_enrolled]
    decide
  exact ⟨first, second,
    (membership_converges studio).2 shifts apart byTurns (by decide) first second, left,
    ((membership_converges studio).1 _).2 annId .inOrder left⟩

end Hub
end RoomHub
