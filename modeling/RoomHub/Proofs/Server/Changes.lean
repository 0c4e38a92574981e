import RoomHub.Proofs.Hub.Delivery
import RoomHub.Server.Basic

/-!
# What operations do to rooms

An operation of a server changes rooms in three ways (`Change`): a room gets its hub, its hub
handles an event, or a message enters its chat log.  `Server.Leads P s s'` says that a server comes
from `s` to `s'` by such changes, all of which satisfy `P`.  There is one lemma for every operation
of a server; what follows from them needs no operation any more: hubs stay sound (`Leads.sound`),
and an outbox grows only by messages whose broadcasts satisfy `P` (`Leads.accepted`).
-/

namespace RoomHub
namespace Hub

/-- The messages that the hub has put into an outbox. -/
def accepted (hub : Hub) (queue : QueueId) : List Message :=
  ((hub.outbox? queue).map Outbox.accepted).getD []

theorem accepted_apply (e : Event) (queue : QueueId) (fed : Bool) (b : Outbox) :
    ∃ new : List Message, (e.apply queue fed b).accepted = b.accepted ++ new ∧
      ∀ m ∈ new, e = .broadcast m := by
  cases fed with
  | false => exact ⟨[], by simp [accepted_apply_of_not_fed], by simp⟩
  | true =>
    cases hk : e.keeps queue b with
    | false => exact ⟨[], by simp [accepted_apply_of_not_keeps hk], by simp⟩
    | true =>
      refine ⟨e.message?.toList, accepted_apply_of_keeps hk, fun m hm => ?_⟩
      cases e <;> simp_all [Event.message?]

theorem accepted_handle_of_none {hub : Hub} (h : hub.Sound) {queue : QueueId}
    (hb : hub.outbox? queue = none) (visit : Visit) (e : Event) :
    (hub.handle visit e).1.accepted queue = [] := by
  have absent : hub.outboxes.lookup queue = none := hb
  cases e with
  | register id user capacity =>
    simp only [accepted, handle, remove, outbox?, List.lookup_cons]
    split
    · rfl
    · rw [absent]
      rfl
  | unregister id => simp [accepted, handle, remove, outbox?, absent]
  | broadcast m =>
    simp only [accepted, handle, outbox?, h.broadcast_fst]
    rw [lookup_map_snd fun q (b : Outbox) => if hub.isAttached q then (b.offer m).1 else b, absent]
    rfl
  | inspect => simp [accepted, handle, hb]
  | take q => simp [accepted, handle, outbox?_modify, hb]
  | dropReceiver q => simp [accepted, handle, outbox?_modify, hb]

/-- An event puts only the message that it broadcasts into an outbox. -/
theorem accepted_handle {hub : Hub} (h : hub.Sound) (visit : Visit) (e : Event) (queue : QueueId) :
    ∃ new : List Message, (hub.handle visit e).1.accepted queue = hub.accepted queue ++ new ∧
      ∀ m ∈ new, e = .broadcast m := by
  cases hb : hub.outbox? queue with
  | none =>
    have start : hub.accepted queue = [] := by simp [accepted, hb]
    exact ⟨[], by rw [accepted_handle_of_none h hb, start]; rfl, by simp⟩
  | some b =>
    obtain ⟨new, grown, only⟩ := accepted_apply e queue (hub.isAttached queue) b
    exact ⟨new, by simp [accepted, outbox?_handle h hb, hb, grown], only⟩

theorem room_offerAll (m : Message) (members : List Member) (hub : Hub) :
    (offerAll m members hub).1.room = hub.room ∧
      (offerAll m members hub).1.running = hub.running := by
  induction members generalizing hub with
  | nil => exact ⟨rfl, rfl⟩
  | cons member members ih => exact ih (hub.offer m member).1

theorem room_handle (hub : Hub) (visit : Visit) (e : Event) :
    (hub.handle visit e).1.room = hub.room ∧ (hub.handle visit e).1.running = hub.running := by
  cases e with
  | broadcast m =>
    simp only [handle, broadcast, foldl_remove]
    exact room_offerAll m _ hub
  | _ => exact ⟨rfl, rfl⟩

end Hub

namespace Server

/-- What happens to a room. -/
inductive Change where
  /-- The room gets its hub. -/
  | founded
  /-- Its hub handles an event. -/
  | handled (e : Hub.Event)
  /-- A message enters its chat log. -/
  | saved (m : Message)

/-- Whoever is registered gets an outbox of this capacity, and there can be one. -/
def Change.Fits (capacity : Nat) : Change → Prop
  | .handled (.register _ _ asked) => asked = capacity ∧ canHold capacity = true
  | .founded | .handled _ | .saved _ => True

theorem Change.fits_of_entrant?_eq_none {e : Hub.Event} (nobody : e.entrant? = none)
    (capacity : Nat) : (Change.handled e).Fits capacity := by
  cases e with
  | register => cases nobody
  | _ => trivial

/-- Two servers differ in their journals at most. -/
def Like (s t : Server) : Prop := { s with journal := t.journal } = t

variable {P Q : RoomId → Change → Prop} {s s' t : Server} {room : RoomId}

/-- A server comes from one state to another, and what happens to its rooms satisfies `P`. -/
inductive Leads (P : RoomId → Change → Prop) : Server → Server → Prop
  | quiet {s s' : Server} (same : s'.Like s) : Leads P s s'
  | found {s s' : Server} {room : RoomId} (new : s.hub? room = none) (allowed : P room .founded)
      (grown : s'.Like { s with hubs := s.hubs ++ [Hub.start room] }) : Leads P s s'
  | handled {s s' : Server} {room : RoomId} {hub : Hub} {e : Hub.Event}
      (known : s.hub? room = some hub) (allowed : P room (.handled e))
      (changed : s'.Like (s.putHub (hub.handle .inOrder e).1)) : Leads P s s'
  | saved {s s' : Server} {store : ChatStore} {m : Message} {room : RoomId}
      (kept : s.store.save m room = .ok store) (allowed : P room (.saved m))
      (changed : s'.Like { s with store := store }) : Leads P s s'
  | trans {s t s' : Server} (first : Leads P s t) (second : Leads P t s') : Leads P s s'

theorem Like.fields (h : s'.Like s) : s'.settings = s.settings ∧ s'.clock = s.clock ∧
    s'.now = s.now ∧ s'.store = s.store ∧ s'.hubs = s.hubs := by
  unfold Like at h
  rw [← h]
  exact ⟨rfl, rfl, rfl, rfl, rfl⟩

theorem Like.hubs (h : s'.Like s) : s'.hubs = s.hubs := h.fields.2.2.2.2

/-- Operations set neither settings nor clocks. -/
theorem Leads.fixed (h : Leads P s s') :
    s'.settings = s.settings ∧ s'.clock = s.clock ∧ s'.now = s.now := by
  induction h with
  | quiet same => exact ⟨same.fields.1, same.fields.2.1, same.fields.2.2.1⟩
  | found _ _ grown => exact ⟨grown.fields.1, grown.fields.2.1, grown.fields.2.2.1⟩
  | handled _ _ changed => exact ⟨changed.fields.1, changed.fields.2.1, changed.fields.2.2.1⟩
  | saved _ _ changed => exact ⟨changed.fields.1, changed.fields.2.1, changed.fields.2.2.1⟩
  | trans _ _ first second =>
    exact ⟨second.1.trans first.1, second.2.1.trans first.2.1, second.2.2.trans first.2.2⟩

theorem Leads.imp (h : Leads P s s') (weaker : ∀ room change, P room change → Q room change) :
    Leads Q s s' := by
  induction h with
  | quiet same => exact .quiet same
  | found new allowed grown => exact .found new (weaker _ _ allowed) grown
  | handled known allowed changed => exact .handled known (weaker _ _ allowed) changed
  | saved kept allowed changed => exact .saved kept (weaker _ _ allowed) changed
  | trans _ _ first second => exact .trans first second

/-- All hubs of a server are sound. -/
def Sound (s : Server) : Prop := ∀ hub ∈ s.hubs, hub.Sound

theorem hub?_mem {hub : Hub} (known : s.hub? room = some hub) : hub ∈ s.hubs :=
  List.mem_of_find?_eq_some known

theorem room_of_hub? {hub : Hub} (known : s.hub? room = some hub) : hub.room = room := by
  simpa using List.find?_some known

theorem Leads.sound (h : Leads P s s') (sound : s.Sound) : s'.Sound := by
  induction h with
  | quiet same =>
    intro hub hx
    exact sound hub (same.hubs ▸ hx)
  | @found s s' room new allowed grown =>
    intro hub hx
    rw [grown.hubs, List.mem_append, List.mem_singleton] at hx
    rcases hx with hx | rfl
    · exact sound hub hx
    · exact Hub.sound_start room
  | @handled s s' room hub e known allowed changed =>
    intro x hx
    rw [changed.hubs] at hx
    obtain ⟨y, hy, rfl⟩ := List.mem_map.1 hx
    split_ifs
    · exact (sound hub (hub?_mem known)).handle .inOrder e
    · exact sound y hy
  | saved kept allowed changed =>
    intro hub hx
    exact sound hub (changed.hubs ▸ hx)
  | trans _ _ first second => exact second (first sound)

/-! ### Looking up hubs -/

theorem hub?_putHub (s : Server) (hub : Hub) (room : RoomId) :
    (s.putHub hub).hub? room =
      if hub.room = room then (s.hub? room).map fun _ => hub else s.hub? room := by
  unfold hub? putHub
  have same : ((fun h : Hub => decide (h.room = room)) ∘
      fun h => if h.room = hub.room then hub else h) = fun h => decide (h.room = room) := by
    funext h
    by_cases e : h.room = hub.room <;> simp [e]
  rw [List.find?_map, same]
  cases found : s.hubs.find? fun h => decide (h.room = room) with
  | none => simp
  | some h =>
    have : h.room = room := by simpa using List.find?_some found
    subst this
    simp only [Option.map_some]
    by_cases e : h.room = hub.room
    · simp [e]
    · simp [e, Ne.symm e]

theorem hub?_append (s : Server) (hub : Hub) (room : RoomId) :
    { s with hubs := s.hubs ++ [hub] }.hub? room =
      (s.hub? room).or (if hub.room = room then some hub else none) := by
  unfold hub?
  rw [List.find?_append, List.find?_singleton]
  simp only [decide_eq_true_eq]

/-- The messages that the hub of a room has put into an outbox. -/
def accepted (s : Server) (room : RoomId) (queue : QueueId) : List Message :=
  ((s.hub? room).map (·.accepted queue)).getD []

theorem Like.hub? (h : s'.Like s) (room : RoomId) : s'.hub? room = s.hub? room := by
  simp only [Server.hub?, h.hubs]

/-- An outbox grows only by messages whose broadcasts are allowed. -/
theorem Leads.accepted (h : Leads P s s') (sound : s.Sound) (room : RoomId) (queue : QueueId) :
    ∃ new : List Message, s'.accepted room queue = s.accepted room queue ++ new ∧
      ∀ m ∈ new, P room (.handled (.broadcast m)) := by
  induction h with
  | quiet same => exact ⟨[], by simp [Server.accepted, same.hub?], by simp⟩
  | @found s s' founded new allowed grown =>
    refine ⟨[], ?_, by simp⟩
    have look := (grown.hub? room).trans (hub?_append s (Hub.start founded) room)
    cases known : s.hub? room with
    | some hub => simp [Server.accepted, look, known]
    | none =>
      simp only [Server.accepted, look, known, Option.none_or]
      split_ifs <;> rfl
  | @handled s s' changing hub e known allowed changed =>
    have look := (changed.hub? room).trans (hub?_putHub s _ room)
    rw [(Hub.room_handle hub .inOrder e).1, room_of_hub? known] at look
    by_cases same : changing = room
    · subst same
      obtain ⟨new, grown, only⟩ := Hub.accepted_handle (sound hub (hub?_mem known)) .inOrder e queue
      refine ⟨new, ?_, fun m hm => only m hm ▸ allowed⟩
      simp [Server.accepted, look, known, grown]
    · exact ⟨[], by simp [Server.accepted, look, same], by simp⟩
  | saved kept allowed changed =>
    have look := changed.hub? room
    exact ⟨[], by simp only [Server.accepted, look, List.append_nil]; rfl, by simp⟩
  | @trans s t s' before _ first second =>
    obtain ⟨new, grown, only⟩ := first sound
    obtain ⟨more, grown', only'⟩ := second (before.sound sound)
    refine ⟨new ++ more, by rw [grown', grown, List.append_assoc], fun m hm => ?_⟩
    exact (List.mem_append.1 hm).elim (only m) (only' m)

/-! ### The operations of a server -/

theorem leads_report (s : Server) (notices : List Notice) : Leads P s (s.report notices) :=
  .quiet rfl

theorem leads_send (s : Server) (room : RoomId) (e : Hub.Event) (allowed : P room (.handled e)) :
    Leads P s (s.send room e).2 := by
  unfold send
  split
  · exact .quiet rfl
  next hub known =>
    split_ifs
    · exact .handled known allowed rfl
    · exact .quiet rfl

theorem leads_receive (s : Server) (room : RoomId) (e : Hub.Event) (allowed : P room (.handled e)) :
    Leads P s (s.receive room e) := by
  unfold receive
  split
  · exact .quiet rfl
  next hub known => exact .handled known allowed rfl

theorem leads_unregister (s : Server) (linked : Bool) (room : RoomId) (id : ConnectionId)
    (allowed : P room (.handled (.unregister id))) : Leads P s (s.unregister linked room id) := by
  have sent := leads_send s room (.unregister id) allowed
  unfold unregister
  split_ifs
  · split
    next heq => rwa [heq] at sent
    next heq =>
      rw [heq] at sent
      exact sent.trans (leads_report _ _)
  · exact .quiet rfl

theorem leads_resolve {s t : Server} {room : RoomId} (found : s.resolve room = .ok t)
    (allowed : canHold s.settings.intakeCapacity = true → P room .founded) : Leads P s t := by
  unfold resolve at found
  split at found
  · cases found
    exact .quiet rfl
  next new =>
    split_ifs at found with fits
    cases found
    exact .found new (allowed fits) rfl

theorem leads_register (s : Server) (room : RoomId) (id : ConnectionId) (user : Identity)
    (capacity : Nat)
    (allowed : canHold capacity = true → P room (.handled (.register id user capacity))) :
    Leads P s (s.register room id user capacity).2 := by
  unfold register
  split_ifs with fits
  · have sent := leads_send s room (.register id user capacity) (allowed fits)
    split
    · exact .quiet rfl
    · split
      next heq => rwa [heq] at sent
      next heq => rwa [heq] at sent
  · exact .quiet rfl

theorem leads_persist (s : Server) (m : Message) (allowed : P m.roomId (.saved m)) :
    Leads P s (s.persist m) := by
  unfold persist
  split
  next kept => exact .saved kept allowed rfl
  · exact leads_report _ _

/-- A client's message is stamped by the clock and is no closing notice. -/
theorem leads_relay (s : Server) (room : RoomId) (sender : Identity) (kind : MessageKind)
    (content : String)
    (allowed : ∀ time, s.clock = some time → kind ≠ .roomClosed →
      P room (.handled (.broadcast (.ofClient kind content sender room time))))
    (saved : ∀ m, P room (.saved m)) :
    Leads P s (s.relay room sender kind content).2 := by
  unfold relay
  split_ifs with reserved
  · exact .quiet rfl
  · split
    · exact .quiet rfl
    next time shown =>
      have stamped := allowed time shown reserved
      dsimp only
      have here : (Message.ofClient kind content sender room time).roomId = room := rfl
      generalize Message.ofClient kind content sender room time = m at stamped here
      have kept : Leads P s (if m.isChat then s.persist m else s) := by
        split_ifs
        · exact leads_persist s m (here ▸ saved m)
        · exact .quiet rfl
      have sent := kept.trans (leads_send _ room (.broadcast m) stamped)
      split
      next heq => rwa [heq] at sent
      next heq => rwa [heq] at sent

/-- Only an administrator's closing reaches the hub. -/
theorem leads_closeRoom (s : Server) (user : Identity) (room : RoomId)
    (allowed : ∀ time, s.clock = some time → user.role = .admin →
      P room (.handled (.broadcast (.roomClosed user.userId room time)))) :
    Leads P s (s.closeRoom user room).2 := by
  unfold closeRoom
  split_ifs with forbidden
  · exact .quiet rfl
  · have admin : user.role = .admin := by simpa [Identity.isAdmin] using forbidden
    split
    · exact leads_report _ _
    · exact .quiet rfl
    next time known shown =>
      have sent := leads_send s room _ (allowed time shown admin)
      split
      next heq => rwa [heq] at sent
      next heq =>
        rw [heq] at sent
        exact sent.trans (leads_report _ _)

/-! ### Admission -/

@[simp] theorem settings_report (s : Server) (notices : List Notice) :
    (s.report notices).settings = s.settings := rfl

@[simp] theorem settings_putHub (s : Server) (hub : Hub) :
    (s.putHub hub).settings = s.settings := rfl

/-- Either no hub takes the event and nothing happens, or a running one handles it. -/
theorem send_cases (s : Server) (room : RoomId) (e : Hub.Event) :
    s.send room e = (.error ⟨room⟩, s) ∨
      ∃ hub notices, s.hub? room = some hub ∧ hub.running = true ∧
        s.send room e = (.ok (), (s.putHub (hub.handle .inOrder e).1).report notices) := by
  unfold send
  split
  · exact .inl rfl
  next hub known =>
    split_ifs with running
    · exact .inr ⟨hub, _, known, running, rfl⟩
    · exact .inl rfl

/-- A hub that has handled an event can register a connection. -/
theorem register_after_send {s t : Server} {room : RoomId} {e : Hub.Event}
    (sent : s.send room e = (.ok (), t)) {capacity : Nat} (fits : canHold capacity = true)
    (id : ConnectionId) (user : Identity) :
    ∃ queue u, t.register room id user capacity = (.ok queue, u) := by
  obtain failed | ⟨hub, notices, known, running, done⟩ := send_cases s room e
  · rw [failed] at sent
    cases sent
  · rw [done] at sent
    cases sent
    have handled := Hub.room_handle hub .inOrder e
    rw [room_of_hub? known, running] at handled
    set after := (hub.handle .inOrder e).1
    have found : ((s.putHub after).report notices).hub? room = some after := by
      have look := hub?_putHub s after room
      rwa [if_pos handled.1, known] at look
    simp only [register, fits, if_true, found, send, handled.2]
    exact ⟨_, _, rfl⟩

theorem participant_of_admitUser {s : Server} {id : ConnectionId} {user : Identity} {room : RoomId}
    {p : Participant} (admitted : (s.admitUser id user room).1 = .ok p) :
    p.id = id ∧ p.identity = user ∧ p.room = room := by
  unfold admitUser at admitted
  split at admitted
  · cases admitted
  · split at admitted
    · split at admitted
      · cases admitted
      · split at admitted
        · cases admitted
        · cases admitted
        · cases admitted
          exact ⟨rfl, rfl, rfl⟩
    · cases admitted

/-- The notice of a coming reaches the hub only if the user is then admitted. -/
theorem leads_admitUser (s : Server) (id : ConnectionId) (user : Identity)
    (room : RoomId)
    (joining : ∀ time queue, s.clock = some time →
      (s.admitUser id user room).1 = .ok ⟨id, user, room, queue⟩ →
      P room (.handled (.broadcast (.joined user room time))))
    (founding : canHold s.settings.intakeCapacity = true → P room .founded)
    (entering : canHold s.settings.config.queueCapacity = true →
      P room (.handled (.register id user s.settings.config.queueCapacity))) :
    Leads P s (s.admitUser id user room).2 := by
  unfold admitUser at joining ⊢
  split
  · exact .quiet rfl
  next t resolved =>
    rw [resolved] at joining
    have found : Leads P s t := leads_resolve resolved founding
    obtain ⟨settings, clock, -⟩ := found.fixed
    rw [← clock] at joining
    rw [← settings] at entering
    dsimp only at joining ⊢
    split
    next time shown fits =>
      rw [shown, fits] at joining
      dsimp only at joining
      obtain failed | ⟨hub, notices, known, running, done⟩ :=
        send_cases t room (.broadcast (.joined user room time))
      · rw [failed]
        exact found
      · -- the hub has told its members, so it takes the registration as well
        obtain ⟨queue, u, registered⟩ := register_after_send done fits id user
        have entered := leads_register ((t.putHub (hub.handle .inOrder
          (.broadcast (.joined user room time))).1).report notices) room id user
          t.settings.config.queueCapacity entering
        have told := joining time queue rfl
        rw [done] at told ⊢
        simp only [registered, settings_report, settings_putHub, true_implies] at told entered ⊢
        exact ((found.trans (.handled known told (by rfl))).trans entered).trans (leads_report _ _)
    · exact found

end Server
end RoomHub
