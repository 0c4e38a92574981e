import RoomHub.Http.Site
import RoomHub.Proofs.Server.Changes

/-!
# What answering a request does

`Server.Verifies` says whose request it is and `Request.room?` which room it is for.  An answer does
one of three things to a server, `Effect`: it only reports, it closes a room for a verified user, or
it names a verified user who enters a room (`effect_answer`).  Only the second broadcasts something
(`Effect.leads`).
-/

namespace RoomHub
namespace Http

open Text

/-- The room that a part of a path denotes. -/
def roomOf? (segment : List Char) : Option RoomId :=
  (Percent.text? segment).bind fun raw => (RoomId.ofText raw).toOption

/-- The room that a route is about. -/
def Route.room? : Route → Option RoomId
  | .collaboration segment | .messages segment | .close segment => roomOf? segment
  | .health | .rooms => none

/-- The room that a request is about. -/
def Request.room? (r : Request) : Option RoomId := r.route?.bind Route.room?

/-- A request presents a token: in its bearer header, or in its query if it has no such header. -/
inductive Request.Presents (r : Request) (token : String) : Prop
  | header {value : String} (found : r.header? "authorization" = some value)
      (plain : isPlainValue value = true) (read : bearerToken value = .ok token)
  | query (absent : r.header? "authorization" = none)
      (read : presentedToken (queryTokens r).head? = .ok token)

end Http

open Http

/-- The server verifies a token of the request as that of a user. -/
def Server.Verifies (s : Server) (r : Request) (user : Identity) : Prop :=
  ∃ token, r.Presents token ∧ Token.verify s.settings.secret s.now token = .ok user

namespace Server

variable {s : Server} {r : Request} {user : Identity}

theorem report_nil (s : Server) : s.report [] = s := by
  simp [report]

theorem report_report (s : Server) (first second : List Notice) :
    (s.report first).report second = s.report (first ++ second) := by
  simp [report]

theorem verify_fst (s : Server) (token : String) :
    (s.verify token).1 = Token.verify s.settings.secret s.now token := by
  unfold verify Token.verify
  cases Token.verifyClaims s.settings.secret s.now token <;> rfl

theorem verify_snd (s : Server) (token : String) :
    ∃ notices, (s.verify token).2 = s.report notices := by
  unfold verify
  split
  · exact ⟨_, rfl⟩
  · exact ⟨[], (report_nil s).symm⟩

theorem authenticate_snd (s : Server) (known : Option Identity) (token : Option String) :
    ∃ notices, (s.authenticate known token).2 = s.report notices := by
  unfold authenticate
  split
  · exact ⟨[], (report_nil s).symm⟩
  · split
    · exact ⟨[], (report_nil s).symm⟩
    next token _ => exact verify_snd s token

/-- Whoever was not known before has presented a token. -/
theorem authenticate_ok (s : Server) (known : Option Identity) (token : Option String)
    (done : (s.authenticate known token).1 = .ok user) :
    known = some user ∨ known = none ∧ ∃ t, presentedToken token = .ok t ∧
      Token.verify s.settings.secret s.now t = .ok user := by
  unfold authenticate at done
  split at done
  · cases done
    exact .inl rfl
  · split at done
    · cases done
    next t presented =>
      refine .inr ⟨rfl, t, presented, ?_⟩
      rw [← verify_fst]
      dsimp only at done
      cases found : (s.verify t).1 with
      | error e => simp [found, Except.mapError] at done
      | ok identity => simpa [found, Except.mapError] using done

end Server

namespace Http

variable {s : Server} {r : Request} {user : Identity}

theorem identify_snd (s : Server) (r : Request) :
    ∃ notices, (identify s r).2 = s.report notices := by
  unfold identify
  split
  · exact ⟨[], (s.report_nil).symm⟩
  · split_ifs
    · split
      · exact ⟨[], (s.report_nil).symm⟩
      next token _ =>
        obtain ⟨notices, reported⟩ := s.verify_snd token
        split
        next heq =>
          rw [heq] at reported
          exact ⟨_, reported⟩
        next heq =>
          rw [heq] at reported
          dsimp only at reported
          exact ⟨_, by rw [reported, Server.report_report]⟩
    · exact ⟨[], (s.report_nil).symm⟩

theorem identify_eq (s : Server) (r : Request) :
    ∃ notices, identify s r = ((identify s r).1, s.report notices) := by
  obtain ⟨notices, reported⟩ := identify_snd s r
  exact ⟨notices, Prod.ext rfl reported⟩

/-- A bearer header makes the user known. -/
theorem identify_some (known : (identify s r).1 = .ok (some user)) : s.Verifies r user := by
  unfold identify at known
  split at known
  · cases known
  next value found =>
    split_ifs at known with plain
    split at known
    · cases known
    next token read =>
      have verified := s.verify_fst token
      split at known
      · cases known
      next heq =>
        rw [heq] at verified
        cases known
        exact ⟨token, .header found plain read, verified.symm⟩

/-- Nobody is known only if there is no bearer header. -/
theorem identify_none (unknown : (identify s r).1 = .ok none) :
    r.header? "authorization" = none := by
  unfold identify at unknown
  split at unknown
  next absent => exact absent
  · split_ifs at unknown
    split at unknown
    · cases unknown
    · split at unknown <;> cases unknown

/-- What an answer does to a server, and who enters which room. -/
inductive Effect (s : Server) (r : Request) : Server → Option (Identity × RoomId) → Prop
  | reports (notices : List Notice) : Effect s r (s.report notices) none
  | closes {segment : List Char} {room : RoomId} {user : Identity} (notices : List Notice)
      (posted : r.method = "POST") (route : r.route? = some (.close segment))
      (named : roomOf? segment = some room) (verified : s.Verifies r user) :
      Effect s r ((s.report notices).closeRoom user room).2 none
  | admits {segment : List Char} {room : RoomId} {user : Identity} (notices : List Notice)
      (route : r.route? = some (.collaboration segment)) (named : roomOf? segment = some room)
      (verified : s.Verifies r user) : Effect s r (s.report notices) (some (user, room))

theorem effect_answerRooms (s : Server) (r : Request) (before : List Notice) :
    Effect s r (answerRooms (s.report before)).server (answerRooms (s.report before)).entering := by
  simp only [answerRooms, Server.listRooms, plain, Server.report_report]
  exact .reports _

theorem effect_answerMessages (s : Server) (r : Request) (before : List Notice)
    (known : Option Identity) (segment : List Char) :
    Effect s r (answerMessages (s.report before) known segment).server
      (answerMessages (s.report before) known segment).entering := by
  unfold answerMessages
  split
  · exact .reports before
  · exact .reports before
  · split
    · exact .reports before
    · split <;> simp only [plain, Server.report_report] <;> exact .reports _

theorem effect_answerClose {segment : List Char} {known : Option Identity} {before : List Notice}
    (posted : r.method = "POST") (route : r.route? = some (.close segment))
    (verified : ∀ user, known = some user → s.Verifies r user) :
    Effect s r (answerClose (s.report before) known segment).server
      (answerClose (s.report before) known segment).entering := by
  unfold answerClose
  split
  · exact .reports before
  · exact .reports before
  next user raw decoded =>
    split
    · exact .reports before
    next room read =>
      have named : roomOf? segment = some room := by simp [roomOf?, decoded, read, Except.toOption]
      have closed := Effect.closes before posted route named (verified user rfl)
      split
      next heq => rwa [heq] at closed
      next heq => rwa [heq] at closed
      next heq => rwa [heq] at closed

theorem effect_answerCollaboration {segment : List Char} {known : Option Identity}
    {before : List Notice} (route : r.route? = some (.collaboration segment))
    (verified : ∀ user, known = some user → s.Verifies r user)
    (unknown : known = none → r.header? "authorization" = none) :
    Effect s r (answerCollaboration (s.report before) known segment r).server
      (answerCollaboration (s.report before) known segment r).entering := by
  unfold answerCollaboration
  split
  · exact .reports before
  · split
    · exact .reports before
    · exact .reports before
    next raw decoded _ =>
      obtain ⟨notices, reported⟩ :=
        (s.report before).authenticate_snd known (queryTokens r).head?
      rw [Server.report_report] at reported
      split
      next heq =>
        rw [heq] at reported
        dsimp only at reported
        rw [reported, Server.report_report]
        exact .reports _
      next user _ heq =>
        have who : s.Verifies r user := by
          have ok := (s.report before).authenticate_ok known _ (by rw [heq])
          rcases ok with ok | ⟨absent, token, presented, ok⟩
          · exact verified user ok
          · exact ⟨token, .query (unknown absent) presented, ok⟩
        rw [heq] at reported
        dsimp only at reported
        rw [reported]
        split
        · exact .reports _
        next room read =>
          refine .admits _ route ?_ who
          simp only [admissionRoom] at read
          cases parsed : RoomId.ofText raw with
          | error e => simp [parsed, Except.mapError] at read
          | ok found =>
            simp only [parsed, Except.mapError, Except.ok.injEq] at read
            simp [roomOf?, decoded, parsed, read, Except.toOption]

/-- An answer reports, closes a room for a verified user or lets a verified user enter one. -/
theorem effect_answer (s : Server) (r : Request) :
    Effect s r (s.answer r).server (s.answer r).entering := by
  have quiet : Effect s r s none := by
    simpa only [Server.report_nil] using Effect.reports (s := s) (r := r) []
  simp only [Server.answer]
  split_ifs
  · exact quiet
  · obtain ⟨before, reported⟩ := identify_snd s r
    unfold answerCaller
    split
    next heq =>
      rw [heq] at reported
      dsimp only at reported
      subst reported
      exact .reports before
    next known t heq =>
      rw [heq] at reported
      dsimp only at reported
      subst reported
      have verified : ∀ user, known = some user → s.Verifies r user := by
        rintro user rfl
        exact identify_some (by rw [heq])
      have unknown : known = none → r.header? "authorization" = none := by
        rintro rfl
        exact identify_none (s := s) (by rw [heq])
      split
      · exact .reports before
      next route named =>
        split_ifs with allowed
        · cases route with
          | collaboration segment => exact effect_answerCollaboration named verified unknown
          | health => exact .reports before
          | rooms => exact effect_answerRooms s r before
          | messages segment => exact effect_answerMessages s r before known segment
          | close segment =>
            have posted : r.method = "POST" := by simpa [Route.methods] using allowed
            exact effect_answerClose posted named verified
        · exact .reports before

theorem room?_of_route {route : Route} (routed : r.route? = some route) :
    r.room? = route.room? := by
  simp only [Request.room?, routed, Option.bind_some]

/-- Whoever enters a room enters the one that the request is about. -/
theorem Effect.room?_eq {t : Server} {room : RoomId} (effect : Effect s r t (some (user, room))) :
    r.room? = some room := by
  cases effect with
  | admits notices route named verified => exact (room?_of_route route).trans named

/-- An answer broadcasts only the closing of a room. -/
theorem Effect.leads {P : RoomId → Server.Change → Prop} {t : Server}
    {enters : Option (Identity × RoomId)} (effect : Effect s r t enters)
    (closing : ∀ segment room user shown, r.method = "POST" → r.route? = some (.close segment) →
      roomOf? segment = some room → s.Verifies r user → user.role = .admin → s.clock = some shown →
      P room (.handled (.broadcast (.roomClosed user.userId room shown)))) :
    Server.Leads P s t := by
  cases effect with
  | reports notices => exact Server.leads_report _ _
  | @closes segment room user notices posted route named verified =>
    refine (Server.leads_report _ notices).trans (Server.leads_closeRoom _ user room ?_)
    intro shown clock admin
    exact closing segment room user shown posted route named verified admin clock
  | admits notices route named verified => exact Server.leads_report _ _

end Http
end RoomHub
