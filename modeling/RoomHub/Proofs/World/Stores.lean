import RoomHub.Proofs.Http.Routing
import RoomHub.Proofs.Sample
import RoomHub.Proofs.World.Coupling
import RoomHub.Proofs.World.Happening

/-!
# Worlds with different chat logs

Two servers are twins (`Server.Twin`) if they differ at most in their chat logs and in what was
reported about these.  Twins go the same way in every room (`twin_roomCoupling`): saving a message
leaves a server a twin of itself, and the chat log is read in one kind of answer only
(`Request.readsChatLog`).  So worlds whose servers are twins stay so through every history
(`Twin.through`), and all other requests get the same answers (`Twin.answers_eq`).
-/

namespace RoomHub

open Http

/-- Whether a notice is about the chat log. -/
def Notice.aboutChatLog : Notice → Bool
  | .chatNotSaved .. | .chatLogUnreadable .. | .chatLogRead .. => true
  | _ => false

namespace Server

/-- The journal without the notices about the chat log. -/
def proceedings (s : Server) : List Notice := s.journal.filter (!·.aboutChatLog)

/-- Two servers differ in their chat logs at most, and in what was reported about these. -/
structure Twin (s t : Server) : Prop where
  settings : s.settings = t.settings
  clock : s.clock = t.clock
  now : s.now = t.now
  hubs : s.hubs = t.hubs
  proceedings : s.proceedings = t.proceedings

variable {s t u : Server} {room : RoomId}

theorem Twin.refl (s : Server) : Twin s s := ⟨rfl, rfl, rfl, rfl, rfl⟩

theorem Twin.symm (h : Twin s t) : Twin t s :=
  ⟨h.settings.symm, h.clock.symm, h.now.symm, h.hubs.symm, h.proceedings.symm⟩

theorem Twin.trans (h : Twin s t) (k : Twin t u) : Twin s u :=
  ⟨h.settings.trans k.settings, h.clock.trans k.clock, h.now.trans k.now, h.hubs.trans k.hubs,
    h.proceedings.trans k.proceedings⟩

theorem Twin.report (h : Twin s t) (notices : List Notice) :
    Twin (s.report notices) (t.report notices) := by
  refine ⟨h.settings, h.clock, h.now, h.hubs, ?_⟩
  have same := h.proceedings
  unfold Server.proceedings at same ⊢
  simp only [Server.report, List.filter_append, same]

/-- What is reported about the chat log makes no difference. -/
theorem twin_report (s : Server) {n : Notice} (about : n.aboutChatLog = true) :
    Twin (s.report [n]) s := by
  refine ⟨rfl, rfl, rfl, rfl, ?_⟩
  simp [Server.proceedings, Server.report, about]

theorem twin_store (s : Server) (store : ChatStore) : Twin { s with store } s :=
  ⟨rfl, rfl, rfl, rfl, rfl⟩

/-- Whether or not a message can be saved makes no difference. -/
theorem twin_persist (s : Server) (m : Message) : Twin (s.persist m) s := by
  unfold persist
  split
  · exact twin_store s _
  · exact twin_report s rfl

theorem twin_coupling : Coupling Twin where
  settings h := h.settings
  clock h := h.clock
  now h := h.now
  report notices h := h.report notices

/-- Twins go the same way in every room. -/
theorem twin_roomCoupling (room : RoomId) : RoomCoupling room Twin where
  toCoupling := twin_coupling
  hub h := by simp only [hub?, h.hubs]
  putHub hub h := ⟨h.settings, h.clock, h.now, by simp only [Server.putHub, h.hubs], h.proceedings⟩
  found h := ⟨h.settings, h.clock, h.now, by simp only [h.hubs], h.proceedings⟩
  persist _ h := ((twin_persist _ _).trans h).trans (twin_persist _ _).symm

theorem Twin.listRooms (h : Twin s t) : Coupled Twin s.listRooms t.listRooms := by
  have snapshots : s.snapshot = t.snapshot := by
    funext room
    simp only [snapshot, members, hub?, h.hubs]
  unfold Server.listRooms roomIds
  rw [snapshots, h.hubs]
  exact ⟨rfl, h.report _⟩

end Server

namespace Http

open Server

variable {s t : Server}

/-- A request reads the chat log of a room. -/
def Request.readsChatLog (r : Request) : Bool :=
  match r.route? with
  | some (.messages _) => r.method = "GET" || r.method = "HEAD"
  | _ => false

theorem answerRooms_twin (h : Twin s t) {cares : Prop} :
    Outcome.Coupled Twin cares (answerRooms s) (answerRooms t) := by
  obtain ⟨rooms, s', t', hs, ht, twin⟩ := h.listRooms.split
  unfold answerRooms
  rw [hs, ht]
  exact plain_coupled twin _

/-- Whoever is known is told whether the chat log of a room can be read. -/
theorem status_messages {r : Request} {user : Identity} {segment : List Char} {room : RoomId}
    (known : (identify s r).1 = .ok (some user)) (route : r.route? = some (.messages segment))
    (allowed : (Route.messages segment).methods.contains r.method = true)
    (named : roomOf? segment = some room) :
    (s.answer r).response.toOption.map Response.status =
      some (match s.chatLog room with | .ok _ => 200 | .error _ => 500) := by
  obtain ⟨raw, decoded, read⟩ := text_of_roomOf? named
  rw [answer_messages known route allowed decoded, read]
  dsimp only
  cases s.chatLog room <;> rfl

/-- Reading the chat log lets nobody in and leaves a server a twin of itself. -/
theorem answerMessages_twin (s : Server) (known : Option Identity) (segment : List Char) :
    (answerMessages s known segment).entering = none ∧
      Twin (answerMessages s known segment).server s := by
  unfold answerMessages
  split
  · exact ⟨rfl, .refl s⟩
  · exact ⟨rfl, .refl s⟩
  · split
    · exact ⟨rfl, .refl s⟩
    · split
      · exact ⟨rfl, twin_report s rfl⟩
      · exact ⟨rfl, twin_report s rfl⟩

/-- Twins give the same answers, except to a request that reads the chat log. -/
theorem answer_twin (h : Twin s t) (r : Request) :
    Outcome.Coupled Twin (r.readsChatLog = false) (s.answer r) (t.answer r) := by
  refine answer_coupled twin_coupling ?_ ?_ ?_ h
  · intro segment room _ _
    exact twin_roomCoupling room
  · intro s t _ twin
    exact answerRooms_twin twin
  · intro s t known segment route allowed twin
    obtain ⟨nobody, left⟩ := answerMessages_twin s known segment
    obtain ⟨nobody', right⟩ := answerMessages_twin t known segment
    have reads : r.readsChatLog = true := by
      simpa [Request.readsChatLog, route, Route.methods] using allowed
    exact ⟨fun spared => Bool.noConfusion (reads.symm.trans spared), nobody.trans nobody'.symm,
      (left.trans twin).trans right.symm⟩

end Http

namespace World

open Server

/-- Two worlds differ in their chat logs at most. -/
structure Twin (w v : World) : Prop where
  now : w.now = v.now
  server : w.server.Twin v.server
  connections : w.connections = v.connections
  feed : w.feed = v.feed

variable {w v u : World}

theorem Twin.refl (w : World) : Twin w w := ⟨rfl, .refl _, rfl, rfl⟩

theorem Twin.symm (h : Twin w v) : Twin v w :=
  ⟨h.now.symm, h.server.symm, h.connections.symm, h.feed.symm⟩

theorem Twin.trans (h : Twin w v) (k : Twin v u) : Twin w u :=
  ⟨h.now.trans k.now, h.server.trans k.server, h.connections.trans k.connections,
    h.feed.trans k.feed⟩

theorem twin_withServer (w : World) {s : Server} (twin : s.Twin w.server) :
    Twin { w with server := s } w :=
  ⟨rfl, twin, rfl, rfl⟩

/-- A world with another store. -/
def withStore (w : World) (store : ChatStore) : World :=
  { w with server := { w.server with store } }

theorem twin_withStore (w : World) (store : ChatStore) : Twin (w.withStore store) w :=
  twin_withServer w (twin_store _ _)

theorem Twin.connectionIn?_eq (h : Twin w v) (room : RoomId) (id : ConnectionId) :
    w.connectionIn? room id = v.connectionIn? room id := by
  simp only [connectionIn?, place, h.connections]

theorem Twin.move (h : Twin w v) (time : Nat) (room : RoomId) (id : ConnectionId)
    (m : Connection.Move) :
    Twin (w.step time (.move room id m)) (v.step time (.move room id m)) := by
  have same := h.connectionIn?_eq room id
  cases found : w.connectionIn? room id with
  | none =>
    rw [step_move_of_none found, step_move_of_none (same ▸ found)]
    exact h
  | some c =>
    rw [step_move_of_some found, step_move_of_some (same ▸ found)]
    obtain ⟨d, s, t, hs, ht, twin⟩ :=
      (Connection.perform_coupled (twin_roomCoupling _) m time h.server).split
    rw [hs, ht]
    exact ⟨rfl, twin, by simp only [place, h.connections], h.feed⟩

theorem Twin.coupled (h : Twin w v) : Coupled Server.Twin w v :=
  ⟨h.now, h.server, h.connections, h.feed⟩

theorem Coupled.twin (h : Coupled Server.Twin w v) : Twin w v :=
  ⟨h.now, h.server, h.connections, h.feed⟩

theorem Twin.request (h : Twin w v) (time : Nat) (id : ConnectionId) (r : Request) :
    Twin (w.step time (.request id r)) (v.step time (.request id r)) :=
  (h.coupled.request twin_roomCoupling (answer_twin h.server r) time id).twin

/-- Whatever happens leaves twins twins. -/
theorem Twin.happen (h : Twin w v) (time : Nat) (x : Happening) :
    Twin (w.happen time x) (v.happen time x) := by
  cases x with
  | step x =>
    cases x with
    | request id r => exact h.request time id r
    | move room id m => exact h.move time room id m
    | setClocks clock now =>
      exact ⟨rfl, ⟨h.server.settings, rfl, rfl, h.server.hubs, h.server.proceedings⟩, h.connections,
        h.feed⟩
  | ask r => exact ⟨rfl, (answer_twin h.server r).server, h.connections, h.feed⟩
  | resolve room => exact ⟨rfl, (twin_roomCoupling room).resolved h.server, h.connections, h.feed⟩
  | announce user room =>
    exact ⟨rfl, (twin_roomCoupling room).announce h.server user, h.connections, h.feed⟩
  | enroll id user room =>
    have dated : Twin { w with now := time } { v with now := time } :=
      ⟨rfl, h.server, h.connections, h.feed⟩
    have entered := enroll_together (twin_roomCoupling room) dated.server dated.now id user
    exact (dated.coupled.together entered).twin

theorem Twin.through (h : Twin w v) (history : List (Nat × Happening)) :
    Twin (w.through history) (v.through history) := by
  induction history generalizing w v with
  | nil => exact h
  | cons x history ih => exact ih (h.happen x.1 x.2)

/-! ### Answers -/

/-- The answer to a happening that is a request and does not read the chat log. -/
def answer? (w : World) (x : Happening) : Option (Except Crash Response) :=
  (x.request?.filter (!·.readsChatLog)).map fun r => (w.server.answer r).response

/-- The answers to all requests of a history that do not read the chat log, one after the other. -/
def answers : World → List (Nat × Happening) → List (Except Crash Response)
  | _, [] => []
  | w, (time, x) :: history => (w.answer? x).toList ++ answers (w.happen time x) history

theorem Twin.answer?_eq (h : Twin w v) (x : Happening) : w.answer? x = v.answer? x := by
  unfold answer?
  cases asked : x.request?.filter (!·.readsChatLog) with
  | none => rfl
  | some r =>
    have spared : r.readsChatLog = false := by simpa using (Option.filter_eq_some_iff.1 asked).2
    simp only [Option.map_some, (answer_twin h.server r).response spared]

theorem Twin.answers_eq (h : Twin w v) (history : List (Nat × Happening)) :
    answers w history = answers v history := by
  induction history generalizing w v with
  | nil => rfl
  | cons x history ih => simp only [answers, h.answer?_eq x.2, ih (h.happen x.1 x.2)]

/-! ### Stores that do as they like -/

/-- The world after a history in which the store has become any other before each happening. -/
def throughWith (w : World) (history : List (ChatStore × Nat × Happening)) : World :=
  history.foldl (fun w x => (w.withStore x.1).happen x.2.1 x.2.2) w

/-- The answers in such a history to all requests that do not read a chat log. -/
def answersWith : World → List (ChatStore × Nat × Happening) → List (Except Crash Response)
  | _, [] => []
  | w, (store, time, x) :: history =>
    ((w.withStore store).answer? x).toList ++
      answersWith ((w.withStore store).happen time x) history

theorem Twin.throughWith (h : Twin w v) (history : List (ChatStore × Nat × Happening)) :
    Twin (w.throughWith history) (v.through (history.map Prod.snd)) ∧
      answersWith w history = answers v (history.map Prod.snd) := by
  induction history generalizing w v with
  | nil => exact ⟨h, rfl⟩
  | cons x history ih =>
    obtain ⟨store, time, x⟩ := x
    have twin : Twin (w.withStore store) v := (twin_withStore w store).trans h
    obtain ⟨later, same⟩ := ih (twin.happen time x)
    exact ⟨later, by simp only [List.map_cons, answersWith, answers, twin.answer?_eq, same]⟩

/-- Two worlds show the same to all who do not look at chat logs. -/
structure Alike (w v : World) : Prop where
  /-- The members of each room, and for each outbox what was taken from it and what waits in it. -/
  hubs : w.server.hubs = v.server.hubs
  /-- Among other things, the frames that each connection was sent, and its end. -/
  connections : w.connections = v.connections
  /-- All that was reported but for notices about the chat log, the ends of pumps among it. -/
  proceedings : w.server.proceedings = v.server.proceedings

theorem Twin.alike (h : Twin w v) : Alike w v :=
  ⟨h.server.hubs, h.connections, h.server.proceedings⟩

theorem twin_start {settings : Settings} {a b : ChatStore} {clock : Option Calendar.Instant}
    {now : Nat} {s t : Server} (started : Server.start settings a clock now = .ok s)
    (started' : Server.start settings b clock now = .ok t) : Twin (ofServer s) (ofServer t) := by
  unfold Server.start at started started'
  split_ifs at started started'
  cases started
  cases started'
  exact ⟨rfl, ⟨rfl, rfl, rfl, rfl, rfl⟩, rfl, rfl⟩

/-- Whatever happens, it makes no difference where chat messages are kept, whether they are kept at
all and when: all rooms, all connections and the answers to all requests are the same, except the
answers to requests that read a chat log. -/
theorem stores_make_no_difference {settings : Settings} {a b : ChatStore}
    {clock : Option Calendar.Instant} {now : Nat} {s t : Server}
    (started : Server.start settings a clock now = .ok s)
    (started' : Server.start settings b clock now = .ok t) (history : List (Nat × Happening)) :
    Alike ((ofServer s).through history) ((ofServer t).through history) ∧
    answers (ofServer s) history = answers (ofServer t) history ∧
    ∀ first second : List (ChatStore × Nat × Happening), first.map Prod.snd = history →
      second.map Prod.snd = history →
      Alike ((ofServer s).throughWith first) ((ofServer t).throughWith second) ∧
      answersWith (ofServer s) first = answersWith (ofServer t) second := by
  have twin := twin_start started started'
  refine ⟨(twin.through history).alike, twin.answers_eq history, ?_⟩
  rintro first second rfl same
  obtain ⟨left, replies⟩ := (Twin.refl (ofServer s)).throughWith first
  obtain ⟨right, replies'⟩ := twin.symm.throughWith second
  rw [same] at right replies'
  exact ⟨(left.trans right.symm).alike, replies.trans replies'.symm⟩

/-- A request for the head of what is said in the studio, with a token of Ann's. -/
def headRequest : Request :=
  .ofParts "HEAD" "/api/rooms/studio/messages" [("authorization", "Bearer " ++ Sample.annToken)]

/-- The answer to a request for a head, too, tells a log from a store that fails. -/
theorem head_reads_the_store :
    Server.start Sample.settings (.log (.withCapacity 1)) none 0 = .ok Sample.server ∧
      Server.start Sample.settings (.failing "disk full") none 0 = .ok Sample.failing ∧
      headRequest.method ≠ "GET" ∧
      ((ofServer Sample.server).answer Sample.annId headRequest).1 ≠
        ((ofServer Sample.failing).answer Sample.annId headRequest).1 := by
  have known : (identify Sample.server headRequest).1 = .ok (some Sample.ann) := by
    rw [identify_of_bearer Sample.presentable_annToken (by decide +kernel)]
    exact congrArg (Except.map some) Sample.verify_annToken
  have same_user : (identify Sample.failing headRequest).1 =
      (identify Sample.server headRequest).1 :=
    (identify_coupled twin_coupling (twin_store Sample.server _) headRequest).1
  have route : headRequest.route? = some (.messages Sample.studio.text.toList) := by decide
  have named : roomOf? Sample.studio.text.toList = some Sample.studio := by decide +kernel
  refine ⟨rfl, rfl, by decide, fun same => ?_⟩
  have kept := status_messages known route (by decide) named
  have failed := status_messages (same_user.trans known) route (by decide) named
  have same : (Sample.server.answer headRequest).response =
      (Sample.failing.answer headRequest).response :=
    (answer_fst (ofServer Sample.server) _ _).symm.trans (same.trans (answer_fst _ _ _))
  rw [same, failed] at kept
  exact absurd kept (by decide)

/-- Two servers, one with a log and one with a store that fails, when Ann enters the studio. -/
theorem stores_make_no_difference_failing :
    Server.start Sample.settings (.log (.withCapacity 1)) none 0 = .ok Sample.server ∧
      Server.start Sample.settings (.failing "disk full") none 0 = .ok Sample.failing ∧
      Alike ((ofServer Sample.server).through annEnters)
        ((ofServer Sample.failing).through annEnters) := by
  have started : Server.start Sample.settings (.log (.withCapacity 1)) none 0 = .ok Sample.server :=
    rfl
  have started' : Server.start Sample.settings (.failing "disk full") none 0 = .ok Sample.failing :=
    rfl
  exact ⟨started, started', (stores_make_no_difference started started' _).1⟩

end World
end RoomHub
