import Mathlib.Data.List.Induction
import RoomHub.Proofs.World.Happening
import RoomHub.Proofs.World.Presenting

/-!
# Where messages come from

Whatever happens to a server, a message that a hub puts into an outbox has one of three sources
(`Source`): a connected client has said it, somebody is admitted to the room, or an administrator
has closed it.  `Origin` says what each of them means for the message.  Admissions may come apart, as
long as nobody is announced or enrolled before an answer lets him in (`Orderly`); where they are made
in one go, that is so by itself (`orderly_steps`).  The invariant of a history is `Known`: all
connections were admitted, and what waits in their inboxes was sent by their peers.
-/

namespace RoomHub

open Http

/-- Whose doing a message is. -/
inductive Source where
  /-- A client has said it. -/
  | client
  /-- Somebody enters the room. -/
  | joining
  /-- An administrator closes the room. -/
  | closing
  deriving DecidableEq

namespace World

open Server

/-- Whom a part of an admission announces or enrolls, and in which room. -/
def Happening.entrant? : Happening → Option (Identity × RoomId)
  | .announce user room | .enroll _ user room => some (user, room)
  | .step _ | .ask _ | .resolve _ => none

/-- An answer in a history lets a user into a room. -/
def Invited (start : World) (history : List (Nat × Happening)) (user : Identity) (room : RoomId) :
    Prop :=
  ∃ before time r, before ++ [(time, .ask r)] <+: history ∧
    (start.through before).Invites r user room

/-- Nobody is announced or enrolled in a history before an answer has let him in. -/
def Orderly (start : World) (history : List (Nat × Happening)) : Prop :=
  ∀ before time x user room, before ++ [(time, x)] <+: history → x.entrant? = some (user, room) →
    Invited start before user room

/-- A participant was admitted in a history. -/
inductive Admitted (start : World) (history : List (Nat × Happening)) (p : Participant) : Prop
  /-- The request was answered and the connection opened in one go. -/
  | atOnce {before : List (Nat × Happening)} {time : Nat} {r : Request}
      (within : before ++ [(time, .step (.request p.id r))] <+: history)
      (admits : (start.through before).Admits time r p)
  /-- An answer let the user in, and the connection was opened later. -/
  | inParts {before : List (Nat × Happening)} {time : Nat}
      (within : before ++ [(time, .enroll p.id p.identity p.room)] <+: history)
      (invited : Invited start before p.identity p.room)
      (opened : ∃ c : Connection, c.participant = p ∧
        (start.through (before ++ [(time, .enroll p.id p.identity p.room)])).connections =
          (start.through before).connections ++ [c])

/-- The peer of a participant sent a frame in a history. -/
def Heard (start : World) (history : List (Nat × Happening)) (p : Participant) (f : Frame) : Prop :=
  ∃ before time c, before ++ [(time, .step (.move p.room p.id (.hear f)))] <+: history ∧
    (start.through before).connectionIn? p.room p.id = some c ∧ c.participant = p

/-- A message for a room comes, in what happens after a history, from a source. -/
inductive Origin (start : World) (history : List (Nat × Happening)) (time : Nat) :
    Happening → RoomId → Message → Source → Prop
  | client {c : Connection} {p : Participant} {arrives : Nat} {f : Frame}
      {rest : List (Nat × Arrival)} {inbound : Wire.Inbound} {shown : Calendar.Instant}
      (connected : (start.through history).connectionIn? p.room p.id = some c)
      (own : c.participant = p) (admitted : Admitted start history p)
      (next : c.inbox = (arrives, .frame f) :: rest) (heard : Heard start history p f)
      (data : Transport.isControl f = false) (decoded : Wire.Inbound.decode f.payload = .ok inbound)
      (free : inbound.kind = .edit ∨ inbound.kind = .chat)
      (clock : (start.through history).server.clock = some shown) :
      Origin start history time (.step (.move p.room p.id .read)) p.room
        { kind := inbound.kind, senderId := p.identity.userId, senderName := p.identity.displayName
          content := inbound.content, timestamp := shown, roomId := p.room } .client
  | joining {p : Participant} {r : Request} {shown : Calendar.Instant}
      (admits : (start.through history).Admits time r p)
      (clock : (start.through history).server.clock = some shown) :
      Origin start history time (.step (.request p.id r)) p.room
        { kind := .chat, senderId := p.identity.userId, senderName := p.identity.displayName
          content := s!"{p.identity.displayName} joined the room", timestamp := shown
          roomId := p.room } .joining
  | announced {user : Identity} {room : RoomId} {shown : Calendar.Instant}
      (invited : Invited start history user room)
      (clock : (start.through history).server.clock = some shown) :
      Origin start history time (.announce user room) room
        { kind := .chat, senderId := user.userId, senderName := user.displayName
          content := s!"{user.displayName} joined the room", timestamp := shown
          roomId := room } .joining
  | closing {x : Happening} {r : Request} {segment : List Char} {user : Identity}
      {room : RoomId} {shown : Calendar.Instant} (asked : x.request? = some r)
      (posted : r.method = "POST") (route : r.route? = some (.close segment))
      (named : roomOf? segment = some room)
      (verified : (start.through history).server.Verifies r user)
      (admin : user.role = .admin)
      (clock : (start.through history).server.clock = some shown) :
      Origin start history time x room
        { kind := .roomClosed, senderId := user.userId, senderName := .system
          content := Message.closureNotice, timestamp := shown, roomId := room } .closing

variable {start : World} {history : List (Nat × Happening)} {time : Nat} {x : Happening}
  {room : RoomId} {m : Message} {source : Source}

/-- The source of what a request broadcasts. -/
def requestSource? (r : Request) : Option Source :=
  match r.route? with
  | some (.collaboration _) => some .joining
  | some (.close _) => some .closing
  | _ => none

/-- The only source that a happening can be. -/
def Happening.source? : Happening → Option Source
  | .step (.request _ r) | .ask r => requestSource? r
  | .step (.move _ _ _) => some .client
  | .announce _ _ => some .joining
  | .step (.setClocks _ _) | .resolve _ | .enroll _ _ _ => none

theorem Happening.source?_of_request? {r : Request} (asked : x.request? = some r) :
    x.source? = requestSource? r := by
  obtain ⟨id, rfl⟩ | rfl := cases_of_request? asked <;> rfl

theorem Origin.source?_eq (h : Origin start history time x room m source) :
    x.source? = some source := by
  cases h with
  | client | announced => rfl
  | joining admits =>
    obtain ⟨segment, route, -⟩ := admits.route
    simp only [Happening.source?, requestSource?, route]
  | closing asked posted route =>
    rw [Happening.source?_of_request? asked]
    simp only [requestSource?, route]

theorem Origin.unique {other : Source} (first : Origin start history time x room m source)
    (second : Origin start history time x room m other) : source = other :=
  Option.some.inj (first.source?_eq.symm.trans second.source?_eq)

/-- A frame makes a message only for its own room, in its sender's name, at the time on the clock,
and never a closing notice. -/
theorem Origin.of_move {there : RoomId} {id : ConnectionId} {move : Connection.Move}
    (h : Origin start history time (.step (.move there id move)) room m source) :
    there = room ∧ m.kind ≠ .roomClosed ∧ m.roomId = room ∧
      (start.through history).server.clock = some m.timestamp ∧
      ∃ c, (start.through history).connectionIn? room id = some c ∧
        m.senderId = c.participant.identity.userId ∧
        m.senderName = c.participant.identity.displayName := by
  cases h with
  | @client c p _ _ _ _ _ connected own _ _ _ _ _ free clock =>
    subst own
    refine ⟨rfl, fun closed => ?_, rfl, clock, c, connected, rfl, rfl⟩
    dsimp only at closed
    simp [closed] at free
  | closing asked => cases asked

/-! ### What was said and done before -/

/-- A connection was admitted, and what waits in its inbox was sent by its peer. -/
structure Grounded (start : World) (history : List (Nat × Happening)) (c : Connection) : Prop where
  admitted : Admitted start history c.participant
  heard : ∀ arrives f, (arrives, .frame f) ∈ c.inbox → Heard start history c.participant f

/-- What is known of a world after a history. -/
structure Known (start : World) (history : List (Nat × Happening)) : Prop where
  sound : (start.through history).server.Sound
  grounded : ∀ c ∈ (start.through history).connections, Grounded start history c

variable {longer : List (Nat × Happening)}

theorem Invited.mono {user : Identity} (h : Invited start history user room)
    (more : history <+: longer) : Invited start longer user room := by
  obtain ⟨before, time, r, within, invites⟩ := h
  exact ⟨before, time, r, within.trans more, invites⟩

theorem Admitted.mono {p : Participant} (h : Admitted start history p)
    (more : history <+: longer) : Admitted start longer p := by
  cases h with
  | atOnce within admits => exact .atOnce (within.trans more) admits
  | inParts within invited opened => exact .inParts (within.trans more) invited opened

theorem Heard.mono {p : Participant} {f : Frame} (h : Heard start history p f)
    (more : history <+: longer) : Heard start longer p f := by
  obtain ⟨before, time, c, earlier, connected⟩ := h
  exact ⟨before, time, c, earlier.trans more, connected⟩

theorem Grounded.mono {c : Connection} (h : Grounded start history c)
    (more : history <+: longer) : Grounded start longer c :=
  ⟨h.admitted.mono more, fun arrives f waits => (h.heard arrives f waits).mono more⟩

theorem orderly_nil (start : World) : Orderly start [] := by
  intro before time x user room within
  simp at within

theorem orderly_concat : Orderly start (history ++ [(time, x)]) ↔
    Orderly start history ∧
      ∀ user room, x.entrant? = some (user, room) → Invited start history user room := by
  constructor
  · intro orderly
    exact ⟨fun before time y user room within =>
        orderly before time y user room (within.trans (List.prefix_append _ _)),
      fun user room => orderly history time x user room (List.prefix_refl _)⟩
  · rintro ⟨orderly, last⟩ before earlier y user room within
    rcases List.prefix_concat_iff.1 within with whole | within
    · obtain ⟨rfl, same⟩ := List.append_inj' whole rfl
      cases same
      exact last user room
    · exact orderly before earlier y user room within

/-- An orderly history goes on with those whom it has let in. -/
theorem Orderly.append {more : List (Nat × Happening)} (orderly : Orderly start history)
    (invited : ∀ y ∈ more, ∀ user room, y.2.entrant? = some (user, room) →
      Invited start history user room) : Orderly start (history ++ more) := by
  induction more using List.reverseRecOn with
  | nil => rwa [List.append_nil]
  | append_singleton more y ih =>
    rw [← List.append_assoc]
    refine orderly_concat.2 ⟨ih fun z there => invited z (List.mem_append_left _ there), ?_⟩
    intro user room entrant
    exact (invited y (by simp) user room entrant).mono (List.prefix_append _ _)

/-- A course is orderly: its admissions do not come apart. -/
theorem orderly_steps (start : World) (course : List (Nat × Step)) :
    Orderly start (course.map fun x => (x.1, .step x.2)) := by
  refine (orderly_nil start).append fun y there user room entrant => ?_
  obtain ⟨x, -, rfl⟩ := List.mem_map.1 there
  cases entrant

theorem mem_of_connectionIn? {w : World} {id : ConnectionId} {c : Connection}
    (found : w.connectionIn? room id = some c) : c ∈ w.connections :=
  List.mem_of_getElem? found

/-- What a happening can broadcast has a source. -/
theorem origin_of_causes (known : Known start history)
    (invited : ∀ user room, x.entrant? = some (user, room) → Invited start history user room)
    (causes : x.Causes (start.through history) time room (.handled (.broadcast m))) :
    ∃ source, Origin start history time x room m source := by
  cases causes with
  | @client c arrives f rest inbound shown connected next data decoded free clock =>
    have grounded := known.grounded c (mem_of_connectionIn? connected)
    have heard := grounded.heard arrives f (next ▸ List.mem_cons_self)
    have kind : inbound.kind = .edit ∨ inbound.kind = .chat := by
      cases kind : inbound.kind with
      | edit => exact .inl rfl
      | chat => exact .inr rfl
      | roomClosed => exact absurd kind free
    exact ⟨.client,
      .client connected rfl grounded.admitted next heard data decoded kind clock⟩
  | joining admits clock => exact ⟨.joining, .joining admits clock⟩
  | announced clock => exact ⟨.joining, .announced (invited _ _ rfl) clock⟩
  | closing asked posted route named verified admin clock =>
    exact ⟨.closing, .closing asked posted route named verified admin clock⟩
  | other concerned quiet => cases quiet

/-! ### Whatever happens -/

/-- Connections are added by admissions, and inboxes grow by what peers send. -/
theorem grounded_happen {c : Connection} (known : Known start history)
    (invited : ∀ user room, x.entrant? = some (user, room) → Invited start history user room)
    (present : c ∈ ((start.through history).happen time x).connections) :
    Grounded start (history ++ [(time, x)]) c := by
  have earlier : ∀ d ∈ (start.through history).connections,
      Grounded start (history ++ [(time, x)]) d :=
    fun d there => (known.grounded d there).mono (List.prefix_append _ _)
  have connects := connects_happen (start.through history) time x
  rw [← through_concat] at connects present
  generalize made : (start.through (history ++ [(time, x)])).connections = connections
    at connects present
  cases connects with
  | nobody => exact earlier c present
  | @moves d m connected =>
    rcases List.mem_or_eq_of_mem_set present with there | rfl
    · exact earlier c there
    · have before := earlier d (mem_of_connectionIn? connected)
      have same := Connection.participant_perform m d time (start.through history).server
      refine ⟨same ▸ before.admitted, fun arrives f waits => ?_⟩
      rw [same]
      rcases Connection.inbox_perform m d time _ waits with waits | rfl
      · exact before.heard arrives f waits
      · exact ⟨history, time, d, List.prefix_refl _, connected, rfl⟩
  | admits admits =>
    rcases List.mem_append.1 present with there | new
    · exact earlier c there
    · -- the connection that the request opens: nothing waits in its inbox
      cases List.mem_singleton.1 new
      exact ⟨.atOnce (List.prefix_refl _) admits, fun _ _ waits => absurd waits List.not_mem_nil⟩
  | enrolls =>
    rcases List.mem_append.1 present with there | new
    · exact earlier c there
    · -- the connection that is enrolled: again, nothing waits in its inbox
      cases List.mem_singleton.1 new
      exact ⟨.inParts (List.prefix_refl _) (invited _ _ rfl) ⟨_, rfl, made⟩,
        fun _ _ waits => absurd waits List.not_mem_nil⟩

theorem known_through (initial : Known start []) (orderly : Orderly start history) :
    Known start history := by
  induction history using List.reverseRecOn with
  | nil => exact initial
  | append_singleton history x ih =>
    obtain ⟨before, invited⟩ := orderly_concat.1 orderly
    have known := ih before
    refine ⟨?_, fun c present => ?_⟩
    · rw [through_concat]
      exact sound_happen known.sound x.1 x.2
    · rw [through_concat] at present
      exact grounded_happen known invited present

end World

/-- A server that has just started has no hub. -/
theorem Server.hubs_start {settings : Settings} {store : ChatStore}
    {clock : Option Calendar.Instant} {now : Nat} {s : Server}
    (started : Server.start settings store clock now = .ok s) : s.hubs = [] := by
  unfold Server.start at started
  split_ifs at started
  cases started
  rfl

namespace World

theorem known_start {s : Server} (fresh : s.hubs = []) : Known (ofServer s) [] where
  sound hub present := by
    have present : hub ∈ s.hubs := present
    simp [fresh] at present
  grounded c present := by simp [through, ofServer] at present

/-- Nothing is in the outboxes of a server that has just started, and whatever happens after an
orderly history puts only messages into them that have exactly one source.  Whatever frames say,
they make no closing notice and no message of another sender, for another room or with another time
than the clock shows. -/
theorem provenance {settings : Settings} {store : ChatStore} {clock : Option Calendar.Instant}
    {now : Nat} {s : Server} (started : Server.start settings store clock now = .ok s)
    (room : RoomId) (queue : QueueId) :
    s.accepted room queue = [] ∧
      ∀ (history : List (Nat × Happening)) (time : Nat) (x : Happening),
        Orderly (ofServer s) (history ++ [(time, x)]) → ∃ placed : List Message,
        ((ofServer s).through (history ++ [(time, x)])).server.accepted room queue =
          ((ofServer s).through history).server.accepted room queue ++ placed ∧
        ∀ m ∈ placed, (∃! source, Origin (ofServer s) history time x room m source) ∧
          ∀ there id move, x = .step (.move there id move) →
            there = room ∧ m.kind ≠ .roomClosed ∧ m.roomId = room ∧
            ((ofServer s).through history).server.clock = some m.timestamp ∧
            ∃ c, ((ofServer s).through history).connectionIn? room id = some c ∧
              m.senderId = c.participant.identity.userId ∧
              m.senderName = c.participant.identity.displayName := by
  have fresh := Server.hubs_start started
  refine ⟨by simp [Server.accepted, Server.hub?, fresh], fun history time x orderly => ?_⟩
  obtain ⟨before, invited⟩ := orderly_concat.1 orderly
  have known := known_through (known_start fresh) before
  obtain ⟨placed, grown, caused⟩ := accepted_happen known.sound time x room queue
  rw [through_concat]
  refine ⟨placed, grown, fun m new => ?_⟩
  obtain ⟨source, origin⟩ := origin_of_causes known invited (caused m new)
  refine ⟨⟨source, origin, fun other second => second.unique origin⟩, ?_⟩
  rintro there id move rfl
  exact origin.of_move

/-- Ann is let into the studio. -/
def invitation : List (Nat × Happening) :=
  [(0, .step (.setClocks (some .epoch) 0)), (0, .ask (headerRequest "studio" Sample.annToken))]

/-- She enters and says something, and the frame reaches her connection. -/
def visit : List (Nat × Happening) :=
  invitation ++ [(0, .resolve Sample.studio), (0, .announce Sample.ann Sample.studio),
    (0, .enroll Sample.annId Sample.ann Sample.studio),
    (1, .step (.move Sample.studio Sample.annId
      (.hear (.text "\x7b\"type\":\"chat\",\"content\":\"hi\"\x7d"))))]

/-- Ann's token opens the studio. -/
theorem entering_annToken {s : Server} (secret : s.settings.secret = Sample.settings.secret)
    (now : s.now = 0) : (s.answer (headerRequest "studio" Sample.annToken)).entering =
      some (Sample.ann, Sample.studio) := by
  have verdict : s.verdict Sample.annToken "studio" = .enters Sample.ann Sample.studio := by
    have named : RoomId.ofText "studio" = .ok Sample.studio := by rfl
    rw [Server.verdict, secret, now, Sample.verify_annToken, named]
  have shaken : handshakeKey (headerRequest "studio" Sample.annToken) = .ok "a key" := rfl
  have routed : (headerRequest "studio" Sample.annToken).route? =
      some (.collaboration "studio".toList) := by decide +kernel
  have decides : (s.answer (headerRequest "studio" Sample.annToken)).Decides
      (s.verdict Sample.annToken "studio") :=
    decides_of_bearer Sample.presentable_annToken rfl shaken routed (by decide +kernel)
      (by decide +kernel)
  rw [decides.entering_eq, verdict]
  rfl

theorem orderly_visit : Orderly (ofServer Sample.server) visit := by
  have invited : Invited (ofServer Sample.server) invitation Sample.ann Sample.studio :=
    ⟨invitation.take 1, 0, _, List.prefix_refl _, invites_of_entering (entering_annToken rfl rfl)⟩
  have asked : Orderly (ofServer Sample.server) invitation :=
    (orderly_nil _).append fun y there user room entrant => by
      simp only [List.mem_cons, List.not_mem_nil, or_false] at there
      rcases there with rfl | rfl <;> cases entrant
  refine asked.append fun y there user room entrant => ?_
  simp only [List.mem_cons, List.not_mem_nil, or_false] at there
  rcases there with rfl | rfl | rfl | rfl <;> cases entrant <;> exact invited

/-- What Ann says comes back to her, and it has one source. -/
theorem provenance_visit :
    Server.start Sample.settings (.log (.withCapacity 1)) none 0 = .ok Sample.server ∧
      Orderly (ofServer Sample.server)
        (visit ++ [(2, .step (.move Sample.studio Sample.annId .read))]) ∧
      ((ofServer Sample.server).through
          (visit ++ [(2, .step (.move Sample.studio Sample.annId .read))])).server.accepted
        Sample.studio ⟨Sample.annId, 0⟩ = [Sample.saying "hi"] ∧
      ∃! source, Origin (ofServer Sample.server) visit 2
        (.step (.move Sample.studio Sample.annId .read)) Sample.studio (Sample.saying "hi")
        source := by
  have started : Server.start Sample.settings (.log (.withCapacity 1)) none 0 = .ok Sample.server :=
    rfl
  have orderly : Orderly (ofServer Sample.server)
      (visit ++ [(2, .step (.move Sample.studio Sample.annId .read))]) :=
    orderly_concat.2 ⟨orderly_visit, fun user room entrant => by cases entrant⟩
  obtain ⟨nothing, said⟩ : ((ofServer Sample.server).through visit).server.accepted Sample.studio
        ⟨Sample.annId, 0⟩ = [] ∧
      ((ofServer Sample.server).through
          (visit ++ [(2, .step (.move Sample.studio Sample.annId .read))])).server.accepted
        Sample.studio ⟨Sample.annId, 0⟩ = [Sample.saying "hi"] := by decide +kernel
  obtain ⟨placed, grown, sources⟩ := (provenance started Sample.studio ⟨Sample.annId, 0⟩).2
    visit 2 (.step (.move Sample.studio Sample.annId .read)) orderly
  rw [said, nothing, List.nil_append] at grown
  subst grown
  exact ⟨started, orderly, said, (sources _ List.mem_cons_self).1⟩

end World
end RoomHub
