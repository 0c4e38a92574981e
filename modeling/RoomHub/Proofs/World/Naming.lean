import RoomHub.Proofs.Http.Coupling
import RoomHub.Proofs.Http.Routing
import RoomHub.Proofs.Identity
import RoomHub.Proofs.Json.Written
import RoomHub.Proofs.Sample
import RoomHub.Proofs.Server.OneRoom
import RoomHub.Proofs.Server.Rooms
import RoomHub.Proofs.World.Steps

/-!
# The rooms that requests name

Three kinds of requests name a room by a part of their path: to enter it, to close it and to read its
chat log.  Each reads the name by itself.  `SharesRoom` says what a connection that has entered through
one name has to do with the others through another name: they meet in one hub and one chat log exactly
if both names are sound and the same remains of them after trimming.
-/

namespace RoomHub

open Http Text

namespace Server

variable {s : Server} {room : RoomId} {user : Identity}

/-- The hub of a room that is closed broadcasts the notice. -/
theorem hub?_closeRoom {hub : Hub} {shown : Calendar.Instant} (known : s.hub? room = some hub)
    (running : hub.running = true) (clock : s.clock = some shown) (admin : user.role = .admin) :
    (s.closeRoom user room).2.hub? room =
      some (hub.runInOrder [.broadcast (.roomClosed user.userId room shown)]) := by
  obtain ⟨t, sent, -, told⟩ :=
    send_of_running known running (.broadcast (.roomClosed user.userId room shown))
  have may : (!user.isAdmin) = false := by simp [Identity.isAdmin, admin]
  simp only [closeRoom, may, Bool.false_eq_true, if_false, known, clock, sent]
  exact told

/-- All other hubs stay as they are. -/
theorem hub?_closeRoom_of_ne {other : RoomId} (distinct : room ≠ other) (s : Server)
    (user : Identity) : (s.closeRoom user room).2.hub? other = s.hub? other := by
  have closes : Leads (fun r _ => r = room) s (s.closeRoom user room).2 :=
    leads_closeRoom s user room fun _ _ _ => rfl
  exact (closes.agreeOn fun _ same => distinct same.symm).hub.symm

/-- Two servers have the same settings and clocks. -/
def SameTime (s t : Server) : Prop := s.settings = t.settings ∧ s.clock = t.clock ∧ s.now = t.now

theorem sameTime_coupling : Coupling SameTime where
  settings h := h.1
  clock h := h.2.1
  now h := h.2.2
  report _ h := h

end Server

namespace World

open Server

/-- What a connection that has entered through the name `s` has to do with requests that name a room
by `t`. -/
structure SharesRoom (s t : String) : Prop where
  /-- Who enters through `s` is in the room that it names. -/
  enters : ∀ (w : World) time id (r : Request) segment,
    r.route? = some (.collaboration segment) → Percent.text? segment = some s →
    ∀ c ∈ (w.step time (.request id r)).connections,
      c ∈ w.connections ∨ RoomId.ofText s = .ok c.participant.room
  /-- Whatever a connection does leaves the hubs and chat logs of all other rooms as they are. -/
  stays : ∀ (c : Connection) (m : Connection.Move) time (server : Server) other,
    other ≠ c.participant.room → server.AgreeOn other (m.perform c time server).2
  /-- A closing through `t` reaches the hub of a room that `s` names exactly if `t` names it, too. -/
  closes : ∀ (server : Server) (r : Request) segment user room hub shown,
    r.method = "POST" → r.route? = some (.close segment) → Percent.text? segment = some t →
    (identify server r).1 = .ok (some user) → user.role = .admin → RoomId.ofText s = .ok room →
    server.hub? room = some hub → hub.running = true → server.clock = some shown →
    (server.answer r).server.hub? room = some (hub.runInOrder
      (if RoomId.Names t ∧ trim s = trim t then
        [.broadcast (.roomClosed user.userId room shown)] else []))
  /-- A request for a chat log through `t` is answered with the log of a room that `s` names if `t`
  names it, too; otherwise this log makes no difference. -/
  reads : ∀ (server : Server) (r : Request) segment user room,
    r.route? = some (.messages segment) → (Route.messages segment).methods.contains r.method = true →
    Percent.text? segment = some t → (identify server r).1 = .ok (some user) →
    RoomId.ofText s = .ok room →
    if RoomId.Names t ∧ trim s = trim t then
      (server.answer r).response = .ok (finish server r (logAnswer (server.chatLog room)))
    else ∀ server', server.SameTime server' →
      (∀ other, other ≠ room → server.chatLog other = server'.chatLog other) →
      (server.answer r).response = (server'.answer r).response

variable {w : World} {s t : String} {segment : List Char} {r : Request}

theorem enters_room (routed : r.route? = some (.collaboration segment))
    (decoded : Percent.text? segment = some s) (time : Nat) (id : ConnectionId) {c : Connection}
    (there : c ∈ (w.step time (.request id r)).connections) :
    c ∈ w.connections ∨ RoomId.ofText s = .ok c.participant.room := by
  obtain ⟨-, step⟩ | ⟨user, room, enters, ⟨p, server, admitted, step⟩ | ⟨_, _, _, -, step⟩⟩ :=
    w.step_request_cases time id r
  · rw [step] at there
    exact .inl there
  · rw [step] at there
    refine (List.mem_append.1 there).imp_right fun new => ?_
    rw [List.mem_singleton.1 new]
    have named := (room?_of_route routed).symm.trans (room?_of_entering enters)
    obtain ⟨raw, decoded', read⟩ := text_of_roomOf? named
    cases decoded.symm.trans decoded'
    rw [read, opened, Connection.start, (participant_of_admitUser (congrArg Prod.fst admitted)).2.2]
  · rw [step] at there
    exact .inl there

theorem shares_room (s t : String) : SharesRoom s t where
  enters w time id r segment routed decoded c there := enters_room routed decoded time id there
  stays c m time server other elsewhere := by
    have moved : Leads (fun room _ => room = c.participant.room) server (m.perform c time server).2 :=
      Connection.leads_perform m c time server (fun _ _ _ => rfl) (fun _ _ => rfl)
        fun _ _ _ _ _ _ _ _ _ _ _ => rfl
    exact moved.agreeOn fun _ same => elsewhere same
  closes server r segment user room hub shown posted routed decoded caller admin named known running
      clock := by
    obtain ⟨notices, closed⟩ := answer_close caller posted routed decoded
    rw [closed]
    split_ifs with shared
    · rw [(RoomId.ofText_eq_ok_iff_of_named named).2 shared]
      exact hub?_closeRoom (s := server.report notices) known running clock admin
    · cases read : RoomId.ofText t with
      | error why => exact known
      | ok other =>
        have distinct : other ≠ room := by
          rintro rfl
          exact shared ((RoomId.ofText_eq_ok_iff_of_named named).1 read)
        exact (hub?_closeRoom_of_ne distinct (server.report notices) user).trans known
  reads server r segment user room routed allowed decoded caller named := by
    have told := answer_messages caller routed allowed decoded
    split_ifs with shared
    · rw [told, (RoomId.ofText_eq_ok_iff_of_named named).2 shared]
    · intro server' same elsewhere
      have caller' := (identify_coupled sameTime_coupling same r).1.symm.trans caller
      rw [told, answer_messages caller' routed allowed decoded]
      have finished : finish server r = finish server' r := by
        funext response
        simp only [finish, same.1]
      rw [finished]
      cases read : RoomId.ofText t with
      | error why => rfl
      | ok other =>
        have distinct : other ≠ room := by
          rintro rfl
          exact shared ((RoomId.ofText_eq_ok_iff_of_named named).1 read)
        dsimp only
        rw [elsewhere other distinct]

/-- A text names a room exactly if between one and 128 code points remain of it after trimming, and
these are the name of the room.  The name of a room names that room, as a text and in JSON, and what is
read from JSON is the room that a text names.  Hence requests through two names meet in one room exactly
if both name a room and the same remains of them. -/
theorem rooms_have_one_name :
    (∀ s, (∃ room, RoomId.ofText s = .ok room) ↔
      1 ≤ (trim s).length ∧ (trim s).length ≤ 128) ∧
    (∀ s room, RoomId.ofText s = .ok room → Trims s room.text) ∧
    (∀ room : RoomId, RoomId.ofText room.text = .ok room ∧
      Json.decode (Wire.readIdentifier RoomId.ofText) (Utf8.encode (Json.writeText room.text)) =
        .ok room) ∧
    (∀ bytes room, Json.decode (Wire.readIdentifier RoomId.ofText) bytes = .ok room ↔
      ∃ s, Json.decode Json.readString bytes = .ok s ∧ RoomId.ofText s = .ok room) ∧
    (∀ s t, (∃ room, RoomId.ofText s = .ok room ∧ RoomId.ofText t = .ok room) ↔
      RoomId.Names s ∧ RoomId.Names t ∧ trim s = trim t) ∧
    ∀ s t, SharesRoom s t :=
  ⟨fun _ => RoomId.exists_ofText_iff,
    fun _ _ named => trims_iff.2 (RoomId.ofText_eq_ok_iff.1 named),
    fun room => ⟨room.ofText_text, Json.decode_encode (Wire.reads_identifier room.ofText_text)⟩,
    fun _ _ => Wire.decode_identifier_eq_ok_iff, fun _ _ => RoomId.names_same_iff, shares_room⟩

/-- Ann asks for what was said in a room that she names with a blank before. -/
def paddedRequest : Request :=
  .ofParts "GET" "/api/rooms/%20studio/messages" [("authorization", "Bearer " ++ Sample.annToken)]

/-- She is told what was said in the studio. -/
theorem rooms_have_one_name_studio :
    RoomId.ofText " studio" = .ok Sample.studio ∧
      (Sample.server.answer paddedRequest).response =
        .ok (finish Sample.server paddedRequest (logAnswer (Sample.server.chatLog Sample.studio))) := by
  obtain ⟨-, -, -, -, meet, shares⟩ := rooms_have_one_name
  have named : RoomId.ofText "studio" = .ok Sample.studio := by rfl
  have padded : RoomId.ofText " studio" = .ok Sample.studio := by rfl
  have caller : (identify Sample.server paddedRequest).1 = .ok (some Sample.ann) := by
    rw [identify_of_bearer Sample.presentable_annToken (by decide +kernel)]
    exact congrArg (Except.map some) Sample.verify_annToken
  have told := (shares "studio" " studio").reads Sample.server paddedRequest "%20studio".toList
    Sample.ann Sample.studio (by decide +kernel) (by decide) (by decide +kernel) caller named
  obtain ⟨-, same⟩ := (meet "studio" " studio").1 ⟨Sample.studio, named, padded⟩
  rw [if_pos same] at told
  exact ⟨padded, told⟩

end World
end RoomHub
