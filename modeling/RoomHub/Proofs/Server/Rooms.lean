import Mathlib.Data.String.Basic
import RoomHub.Proofs.Server.Obeying
import RoomHub.Proofs.Hub.Joining

/-!
# Rooms that have a hub

`Server.rooms` lists the rooms of a server that have a hub, in the order in which they got it.
Whatever happens only adds to this list (`Leads.rooms`), and a hub that is there handles events and
is never replaced (`Leads.hub?_run`).  A server on which no room has two hubs and all hubs run is
`Server.Lasting`; it stays so (`Leads.lasting`), and nobody who turns to one of its rooms is told
that the hub is gone.
-/

namespace RoomHub
namespace RoomId

theorem mem_insertSorted {r x : RoomId} {rooms : List RoomId} :
    x ∈ insertSorted r rooms ↔ x = r ∨ x ∈ rooms := by
  induction rooms with
  | nil => simp [insertSorted]
  | cons s rooms ih =>
    unfold insertSorted
    split_ifs with before same
    · exact List.mem_cons
    · subst same
      simp
    · simp only [List.mem_cons, ih]
      exact or_left_comm

theorem lt_of_not_lt {a b : RoomId} (after : ¬ a < b) (other : a ≠ b) : b < a := by
  rcases lt_trichotomy a.text b.text with before | same | before
  · exact absurd before after
  · obtain ⟨text, _, _, _⟩ := a
    cases same
    exact absurd rfl other
  · exact before

theorem pairwise_insertSorted (r : RoomId) {rooms : List RoomId}
    (ascending : rooms.Pairwise (· < ·)) : (insertSorted r rooms).Pairwise (· < ·) := by
  induction rooms with
  | nil => exact List.pairwise_singleton _ _
  | cons s rooms ih =>
    obtain ⟨first, rest⟩ := List.pairwise_cons.1 ascending
    unfold insertSorted
    split_ifs with before same
    · refine List.pairwise_cons.2 ⟨fun x hx => ?_, ascending⟩
      rcases List.mem_cons.1 hx with rfl | later
      · exact before
      · exact String.lt_trans before (first x later)
    · exact ascending
    · refine List.pairwise_cons.2 ⟨fun x hx => ?_, ih rest⟩
      rcases mem_insertSorted.1 hx with rfl | later
      · exact lt_of_not_lt before same
      · exact first x later

theorem mem_sorted {x : RoomId} {rooms : List RoomId} : x ∈ sorted rooms ↔ x ∈ rooms := by
  induction rooms with
  | nil => rfl
  | cons r rooms ih =>
    rw [sorted, List.foldr_cons, mem_insertSorted, List.mem_cons]
    exact or_congr_right ih

theorem pairwise_sorted (rooms : List RoomId) : (sorted rooms).Pairwise (· < ·) := by
  induction rooms with
  | nil => exact List.Pairwise.nil
  | cons r rooms ih => exact pairwise_insertSorted r ih

end RoomId

namespace Server

variable {P : RoomId → Change → Prop} {s s' t : Server} {room : RoomId} {hub : Hub}

/-- The rooms that have a hub, in the order in which they got it. -/
def rooms (s : Server) : List RoomId := s.hubs.map (·.room)

theorem mem_rooms_iff : room ∈ s.rooms ↔ (s.hub? room).isSome = true := by
  simp [rooms, hub?]

theorem mem_rooms_of_hub? (known : s.hub? room = some hub) : room ∈ s.rooms :=
  mem_rooms_iff.2 (by simp [known])

theorem mem_roomIds : room ∈ s.roomIds ↔ room ∈ s.rooms := RoomId.mem_sorted

theorem rooms_putHub (s : Server) (hub : Hub) : (s.putHub hub).rooms = s.rooms := by
  simp only [rooms, putHub, List.map_map]
  apply List.map_congr_left
  intro h _
  by_cases same : h.room = hub.room <;> simp [same]

theorem Like.rooms (h : s'.Like s) : s'.rooms = s.rooms := by
  simp only [Server.rooms, h.hubs]

/-- Rooms are only added, and only those that get a hub. -/
theorem Leads.rooms (h : Leads P s s') :
    ∃ new : List RoomId, s'.rooms = s.rooms ++ new ∧ ∀ room ∈ new, P room .founded := by
  induction h with
  | quiet same => exact ⟨[], by simp [same.rooms], by simp⟩
  | @found s s' room new allowed grown =>
    refine ⟨[room], by rw [grown.rooms]; exact List.map_append, ?_⟩
    rintro r hr
    exact List.mem_singleton.1 hr ▸ allowed
  | handled _ _ changed => exact ⟨[], by simp [changed.rooms, rooms_putHub], by simp⟩
  | saved _ _ changed => exact ⟨[], by rw [changed.rooms, List.append_nil]; rfl, by simp⟩
  | trans _ _ first second =>
    obtain ⟨new, grown, founded⟩ := first
    obtain ⟨more, grown', founded'⟩ := second
    refine ⟨new ++ more, by rw [grown', grown, List.append_assoc], fun r hr => ?_⟩
    exact (List.mem_append.1 hr).elim (founded r) (founded' r)

theorem Leads.mem_rooms (h : Leads P s s') (there : room ∈ s.rooms) : room ∈ s'.rooms := by
  obtain ⟨new, grown, -⟩ := h.rooms
  exact grown ▸ List.mem_append_left _ there

/-- No room has two hubs, and every hub runs. -/
structure Lasting (s : Server) : Prop where
  once : s.rooms.Nodup
  running : ∀ hub ∈ s.hubs, hub.running = true

theorem Leads.lasting (h : Leads P s s') (lasting : s.Lasting) : s'.Lasting := by
  induction h with
  | quiet same => exact ⟨same.rooms ▸ lasting.once, same.hubs ▸ lasting.running⟩
  | @found s s' room new allowed grown =>
    constructor
    · have absent : room ∉ s.rooms := by simp [mem_rooms_iff, new]
      rw [grown.rooms]
      simp only [Server.rooms, List.map_append, List.map_cons, List.map_nil]
      exact
        List.Nodup.append lasting.once (List.nodup_singleton _) (List.disjoint_singleton.2 absent)
    · rw [grown.hubs]
      rintro hub hx
      rcases List.mem_append.1 hx with hx | hx
      · exact lasting.running hub hx
      · cases List.mem_singleton.1 hx
        rfl
  | @handled s s' room hub e known allowed changed =>
    refine ⟨?_, ?_⟩
    · rw [changed.rooms, rooms_putHub]
      exact lasting.once
    · rw [changed.hubs]
      intro x hx
      obtain ⟨y, hy, rfl⟩ := List.mem_map.1 hx
      split_ifs
      · exact (Hub.room_handle hub .inOrder e).2.trans (lasting.running hub (hub?_mem known))
      · exact lasting.running y hy
  | saved _ _ changed => exact ⟨changed.rooms ▸ lasting.once, changed.hubs ▸ lasting.running⟩
  | trans _ _ first second => exact second (first lasting)

/-- A hub stays and handles events. -/
theorem Leads.hub?_run (h : Leads P s s') (known : s.hub? room = some hub) :
    ∃ events, s'.hub? room = some (hub.runInOrder events) := by
  induction h generalizing hub with
  | quiet same => exact ⟨[], (same.hub? room).trans known⟩
  | @found s s' other new allowed grown =>
    refine ⟨[], ((grown.hub? room).trans (hub?_append s _ room)).trans ?_⟩
    rw [known]
    rfl
  | @handled s s' other changing e there allowed changed =>
    have look := (changed.hub? room).trans (hub?_putHub s _ room)
    rw [(Hub.room_handle changing .inOrder e).1, room_of_hub? there] at look
    by_cases same : other = room
    · subst same
      cases known.symm.trans there
      exact ⟨[e], by rw [look, if_pos rfl, known]; rfl⟩
    · exact ⟨[], by rw [look, if_neg same]; exact known⟩
  | saved _ _ changed => exact ⟨[], (changed.hub? room).trans known⟩
  | trans _ _ first second =>
    obtain ⟨events, known'⟩ := first known
    obtain ⟨more, known''⟩ := second known'
    refine ⟨events ++ more, known''.trans ?_⟩
    simp [Hub.runInOrder, Hub.run]

/-! ### Nobody is told that a hub is gone -/

theorem Lasting.exists_hub (h : s.Lasting) (there : room ∈ s.rooms) :
    ∃ hub, s.hub? room = some hub ∧ hub.running = true := by
  obtain ⟨hub, known⟩ := Option.isSome_iff_exists.1 (mem_rooms_iff.1 there)
  exact ⟨hub, known, h.running hub (hub?_mem known)⟩

theorem Lasting.running_hubOf (h : s.Lasting) (room : RoomId) : (s.hubOf room).running = true := by
  unfold hubOf
  cases known : s.hub? room with
  | none => rfl
  | some hub => exact h.running hub (hub?_mem known)

theorem Lasting.send_fst (h : s.Lasting) (there : room ∈ s.rooms) (e : Hub.Event) :
    (s.send room e).1 = .ok () := by
  obtain ⟨hub, known, running⟩ := h.exists_hub there
  obtain ⟨t, sent, -⟩ := send_of_running known running e
  rw [sent]

/-- A closing notifies the room if there is a hub, and it is lost only if the clock shows no time. -/
theorem Lasting.closeRoom_fst (h : s.Lasting) {user : Identity} (admin : user.role = .admin)
    (room : RoomId) :
    (s.closeRoom user room).1 =
      if room ∈ s.rooms ∧ s.clock = none then .error (.crashed {})
      else .ok (decide (room ∈ s.rooms)) := by
  unfold closeRoom
  rw [if_neg (by simp [Identity.isAdmin, admin])]
  simp only [mem_rooms_iff]
  cases known : s.hub? room with
  | none => rfl
  | some hub =>
    cases s.clock with
    | none => rfl
    | some time =>
      have sent :=
        h.send_fst (mem_rooms_of_hub? known) (.broadcast (.roomClosed user.userId room time))
      dsimp only
      split
      next heq => simp [heq] at sent
      next => rfl

/-- A message reaches the hub, unless it is none that clients may send or the clock shows no time. -/
theorem Lasting.relay_fst (h : s.Lasting) (there : room ∈ s.rooms) (sender : Identity)
    (kind : MessageKind) (content : String) :
    (s.relay room sender kind content).1 =
      if kind = .roomClosed then .error (.refused (.reservedKind kind))
      else
        match s.clock with
        | none => .error (.crashed {})
        | some time => .ok (.ofClient kind content sender room time) := by
  unfold relay
  split_ifs
  · rfl
  · cases s.clock with
    | none => rfl
    | some time =>
      dsimp only
      generalize Message.ofClient kind content sender room time = m
      have kept : (if m.isChat then s.persist m else s).hubs = s.hubs := by
        split_ifs
        · exact hubs_persist s m
        · rfl
      generalize (if m.isChat then s.persist m else s) = t at kept ⊢
      have lasting : t.Lasting := ⟨by rw [Server.rooms, kept]; exact h.once, kept ▸ h.running⟩
      have known : room ∈ t.rooms := by
        rw [Server.rooms, kept]
        exact there
      have sent := lasting.send_fst known (.broadcast m)
      split
      next => rfl
      next heq => simp [heq] at sent

/-- Who asks for the hub of a room gets it, unless no queue of events can be made. -/
theorem mem_rooms_resolve (resolved : s.resolve room = .ok t) : room ∈ t.rooms :=
  mem_rooms_of_hub? (hub?_resolve resolved)

/-- An admission that has got the hub of its room leaves it there. -/
theorem mem_rooms_admitUser (resolved : s.resolve room = .ok t) (id : ConnectionId)
    (user : Identity) : room ∈ (s.admitUser id user room).2.rooms := by
  have there := mem_rooms_resolve resolved
  unfold admitUser
  rw [resolved]
  dsimp only
  split
  next time _ _ =>
    have told := (leads_send (P := fun _ _ => True) t room
      (.broadcast (.joined user room time)) trivial).mem_rooms there
    split
    next heq => rwa [heq] at told
    next u heq =>
      rw [heq] at told
      have entered := (leads_register (P := fun _ _ => True) u room id user
        u.settings.config.queueCapacity fun _ => trivial).mem_rooms told
      split
      next heq => rwa [heq] at entered
      next heq => rwa [heq] at entered
      next heq => rwa [heq] at entered
  · exact there

theorem resolve_of_admitUser {id : ConnectionId} {user : Identity} {p : Participant}
    (admitted : (s.admitUser id user room).1 = .ok p) : ∃ t, s.resolve room = .ok t := by
  cases resolved : s.resolve room with
  | error crash => simp [admitUser, resolved] at admitted
  | ok t => exact ⟨t, rfl⟩

/-- An admission is never refused for want of a hub. -/
theorem Lasting.admitUser_fst_ne (h : s.Lasting) (id : ConnectionId) (user : Identity)
    (room : RoomId) (why : AdmissionError) :
    (s.admitUser id user room).1 ≠ .error (.refused why) := by
  cases resolved : s.resolve room with
  | error crash =>
    simp [admitUser, resolved]
  | ok t =>
    have lasting : t.Lasting := (Leads.of_resolve resolved).lasting h
    unfold admitUser
    rw [resolved]
    dsimp only
    split
    next time _ fits =>
      have sent := lasting.send_fst (mem_rooms_resolve resolved)
        (.broadcast (.joined user room time))
      rcases done : t.send room (.broadcast (.joined user room time)) with ⟨result, u⟩
      rw [done] at sent
      dsimp only at sent
      subst sent
      have same := (leads_send (P := fun _ _ => True) t room
        (.broadcast (.joined user room time)) trivial).fixed.1
      rw [done] at same
      obtain ⟨queue, v, registered⟩ := register_after_send done fits id user
      rw [← same] at registered
      dsimp only at registered ⊢
      rw [registered]
      rintro ⟨⟩
    · rintro ⟨⟩

end Server
end RoomHub
