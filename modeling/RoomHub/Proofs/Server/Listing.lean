import Mathlib.Data.Prod.Lex
import Mathlib.Data.String.Basic
import RoomHub.Proofs.Server.Rooms

/-!
# The listing of all rooms

A listing of a server (`Lists`) has each room that has a hub once, in ascending order, and with each
room the members of its hub, in the order of their users.  On a lasting server `listRooms` gives such
a listing and leaves everything as it is (`Lasting.listRooms_eq`, `Lasting.lists`).
-/

namespace RoomHub
namespace Server

/-! ### The order of members -/

/-- Members are ordered by user, name and connection, in this order of importance. -/
def memberKey (x : Member) : String ×ₗ String ×ₗ String :=
  toLex (x.userId.text, toLex (x.displayName.text, x.id.text))

theorem memberBefore_iff {a b : Member} : memberBefore a b = true ↔ memberKey a ≤ memberKey b := by
  simp only [memberBefore, memberKey, Prod.Lex.toLex_le_toLex]
  split_ifs with user name
  · simp [user, name]
  · simp [user, name, le_iff_lt_or_eq]
  · simp [user, le_iff_lt_or_eq]

theorem memberBefore_trans (a b c : Member) (first : memberBefore a b = true)
    (second : memberBefore b c = true) : memberBefore a c = true :=
  memberBefore_iff.2 ((memberBefore_iff.1 first).trans (memberBefore_iff.1 second))

theorem memberBefore_total (a b : Member) : (memberBefore a b || memberBefore b a) = true := by
  rw [Bool.or_eq_true, memberBefore_iff, memberBefore_iff]
  exact le_total _ _

/-- Who comes before another is of the same user or of one before. -/
theorem user_le_of_memberBefore {a b : Member} (before : memberBefore a b = true) :
    a.userId.text ≤ b.userId.text := by
  have keys := memberBefore_iff.1 before
  rw [memberKey, memberKey, Prod.Lex.toLex_le_toLex] at keys
  exact keys.elim le_of_lt fun same => same.1.le

theorem pairwise_user_mergeSort (members : List Member) :
    (members.mergeSort memberBefore).Pairwise fun a b => a.userId.text ≤ b.userId.text :=
  (List.pairwise_mergeSort memberBefore_trans memberBefore_total members).imp
    user_le_of_memberBefore

/-! ### The listing -/

/-- A list of rooms is a listing of a server. -/
structure Lists (s : Server) (listing : List RoomSnapshot) : Prop where
  /-- Each room that has a hub is listed once, also if it has no member, and no other is. -/
  complete : (listing.map (·.room)).Perm s.rooms
  ascending : (listing.map (·.room)).Pairwise (· < ·)
  /-- The members of a listed room are those that its hub has. -/
  members : ∀ x ∈ listing, ∃ hub, s.hub? x.room = some hub ∧ x.members.Perm hub.members
  /-- A user with several connections is listed with each of them. -/
  connections : ∀ x ∈ listing, (x.members.map (·.id)).Nodup
  users : ∀ x ∈ listing, x.members.Pairwise fun a b => a.userId.text ≤ b.userId.text

variable {s : Server} {room : RoomId}

/-- What is listed of a room. -/
def shown (s : Server) (room : RoomId) : RoomSnapshot :=
  ⟨room, (s.hubOf room).members.mergeSort memberBefore⟩

theorem hub?_of_mem_rooms (there : room ∈ s.rooms) : s.hub? room = some (s.hubOf room) := by
  obtain ⟨hub, known⟩ := Option.isSome_iff_exists.1 (mem_rooms_iff.1 there)
  rw [hubOf, known]
  rfl

theorem Lasting.snapshot_eq (h : s.Lasting) (there : room ∈ s.rooms) :
    s.snapshot room = ([s.shown room], []) := by
  have known := hub?_of_mem_rooms there
  have running := h.running _ (hub?_mem known)
  simp only [snapshot, members, known, running, if_true]
  rfl

/-- No room is passed over, so nothing is reported. -/
theorem Lasting.listRooms_eq (h : s.Lasting) : s.listRooms = (s.roomIds.map s.shown, s) := by
  have snapshots : s.roomIds.map s.snapshot = s.roomIds.map fun room => ([s.shown room], []) :=
    List.map_congr_left fun room there => h.snapshot_eq (mem_roomIds.1 there)
  have quiet : (s.roomIds.flatMap fun _ => ([] : List Notice)) = [] :=
    List.flatMap_eq_nil_iff.2 fun _ _ => rfl
  simp only [listRooms, snapshots, List.flatMap_map, ← List.map_eq_flatMap, quiet, report,
    List.append_nil]

theorem Lasting.lists (h : s.Lasting) (sound : s.Sound) : s.Lists s.listRooms.1 := by
  have rooms : (s.roomIds.map s.shown).map (·.room) = s.roomIds := by
    simp [shown, Function.comp_def]
  have ascending : s.roomIds.Pairwise (· < ·) := RoomId.pairwise_sorted _
  have listed {x : RoomSnapshot} (there : x ∈ s.roomIds.map s.shown) :
      ∃ hub, s.hub? x.room = some hub ∧ x.members = hub.members.mergeSort memberBefore := by
    obtain ⟨room, mem, rfl⟩ := List.mem_map.1 there
    exact ⟨_, hub?_of_mem_rooms (mem_roomIds.1 mem), rfl⟩
  rw [h.listRooms_eq]
  refine ⟨?_, ?_, fun x there => ?_, fun x there => ?_, fun x there => ?_⟩
  · have once : s.roomIds.Nodup :=
      ascending.imp fun {a b} before same => absurd (same ▸ before) (lt_irrefl b.text)
    rw [rooms, List.perm_ext_iff_of_nodup once h.once]
    exact fun room => mem_roomIds
  · rw [rooms]
    exact ascending
  · obtain ⟨hub, known, same⟩ := listed there
    exact ⟨hub, known, same ▸ List.mergeSort_perm _ _⟩
  · obtain ⟨hub, known, same⟩ := listed there
    have perm : x.members.Perm hub.members := same ▸ List.mergeSort_perm _ _
    exact (perm.map _).nodup_iff.2 (sound hub (hub?_mem known)).distinct
  · obtain ⟨hub, -, same⟩ := listed there
    exact same ▸ pairwise_user_mergeSort _

end Server
end RoomHub
