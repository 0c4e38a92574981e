import RoomHub.Proofs.Http.Answers

/-!
# Whom answers allow

Every answer names the origin of its request if that is one of the server's, and no other: no route
writes that header itself (`Outcome.Mild`), so it is there only as `finish` puts it there
(`mem_allowed_iff`).  A request is lost only if the time is needed and the clock shows none
(`exists_response`).
-/

namespace RoomHub

/-- A closing is lost only for want of a time. -/
theorem Server.clock_of_closeRoom {s t : Server} {user : Identity} {room : RoomId} {crash : Crash}
    (lost : s.closeRoom user room = (.error (.crashed crash), t)) : s.clock = none := by
  unfold closeRoom at lost
  split_ifs at lost
  · cases lost
  · split at lost
    · cases lost
    next shown => exact shown
    · split at lost <;> cases lost

namespace Http

/-- The header that names the allowed origin. -/
def allowOrigin : String := "access-control-allow-origin"

variable {s : Server} {r : Request} {o : Outcome} {response : Response} {origin : String}

/-- An answer says nothing of origins. -/
def Response.Silent (response : Response) : Prop := allowOrigin ∉ response.headers.map (·.1)

/-- The request is answered as long as the clock of the server shows a time, and not a word about
origins is in the answer. -/
structure Outcome.Mild (o : Outcome) (s : Server) : Prop where
  answered : s.clock ≠ none → ∃ response, o.response = .ok response
  silent : ∀ response, o.response = .ok response → response.Silent

theorem Outcome.mild_of_ok (given : o.response = .ok response) (silent : response.Silent) :
    o.Mild s where
  answered _ := ⟨response, given⟩
  silent other given' := by
    rw [given] at given'
    cases given'
    exact silent

theorem plain_mild (silent : response.Silent) (s t : Server) : (plain response t).Mild s :=
  Outcome.mild_of_ok rfl silent

/-! ### The answers without a word about origins -/

theorem silent_empty (status : Nat) : (Response.empty status).Silent := List.not_mem_nil

theorem silent_json (status : Nat) (body : List Char) : (Response.json status body).Silent := by
  simp [Response.Silent, Response.json, allowOrigin]

theorem silent_text (status : Nat) (body : String) : (Response.text status body).Silent := by
  simp [Response.Silent, Response.text, allowOrigin]

theorem silent_accepted (key : String) : (accepted key).Silent := by
  simp [Response.Silent, accepted, allowOrigin]

theorem silent_preflight : Cors.preflight.Silent := by
  simp [Response.Silent, Cors.preflight, allowOrigin]

theorem silent_fault (fault : HandshakeFault) : fault.response.Silent := by
  cases fault <;> exact silent_text _ _

/-! ### The routes -/

theorem answerMessages_mild (s : Server) (known : Option Identity) (segment : List Char) :
    (answerMessages s known segment).Mild s := by
  unfold answerMessages
  split
  · exact plain_mild (silent_json _ _) s _
  · exact plain_mild (silent_text _ _) s _
  · split
    · exact plain_mild (silent_empty _) s _
    · split
      · exact plain_mild (silent_empty _) s _
      · exact plain_mild (silent_json _ _) s _

theorem answerClose_mild (s : Server) (known : Option Identity) (segment : List Char) :
    (answerClose s known segment).Mild s := by
  unfold answerClose
  split
  · exact plain_mild (silent_json _ _) s _
  · exact plain_mild (silent_text _ _) s _
  · split
    · exact plain_mild (silent_json _ _) s _
    · split
      · exact plain_mild (silent_json _ _) s _
      next lost => exact ⟨fun shown => absurd (Server.clock_of_closeRoom lost) shown, nofun⟩
      · exact plain_mild (silent_json _ _) s _

theorem answerCollaboration_mild (s : Server) (known : Option Identity) (segment : List Char)
    (r : Request) : (answerCollaboration s known segment r).Mild s := by
  unfold answerCollaboration
  split
  · exact plain_mild (silent_fault _) s _
  · split
    · exact plain_mild (silent_text _ _) s _
    · exact plain_mild (silent_text _ _) s _
    · split
      · exact plain_mild (silent_json _ _) s _
      · split
        · exact plain_mild (silent_json _ _) s _
        · exact Outcome.mild_of_ok rfl (silent_accepted _)

theorem answerRoute_mild (s : Server) (known : Option Identity) (r : Request) (route : Route) :
    (answerRoute s known r route).Mild s := by
  cases route with
  | collaboration segment => exact answerCollaboration_mild s known segment r
  | health => exact plain_mild (silent_json _ _) s _
  | rooms => exact plain_mild (silent_json _ _) s _
  | messages segment => exact answerMessages_mild s known segment
  | close segment => exact answerClose_mild s known segment

theorem answerCaller_mild (s : Server) (r : Request) : (answerCaller s r).Mild s := by
  obtain ⟨notices, said⟩ := identify_eq s r
  unfold answerCaller
  rw [said]
  cases (identify s r).1 with
  | error why => exact plain_mild (silent_json _ _) s _
  | ok known =>
    dsimp only
    split
    · exact plain_mild (silent_empty _) s _
    next route _ =>
      split_ifs
      · -- the report has left the clock as it is
        have mild := answerRoute_mild (s.report notices) known r route
        exact ⟨mild.answered, mild.silent⟩
      · exact plain_mild (silent_empty _) s _

/-! ### Any answer -/

/-- What is answered before the headers for all answers are added. -/
theorem answer_mild (s : Server) (r : Request) :
    (if r.method = "OPTIONS" then plain Cors.preflight s else answerCaller s r).Mild s := by
  split_ifs
  · exact plain_mild silent_preflight s s
  · exact answerCaller_mild s r

/-- A request is answered as long as the clock shows a time. -/
theorem exists_response (shown : s.clock ≠ none) (r : Request) :
    ∃ response, (s.answer r).response = .ok response := by
  obtain ⟨first, given⟩ := (answer_mild s r).answered shown
  exact ⟨finish s r first, by simp only [Server.answer, given]; rfl⟩

theorem mem_originHeaders_iff {allowed : List String} {header : String × String} :
    header ∈ Cors.originHeaders allowed r ↔
      header.1 = allowOrigin ∧ r.header? "origin" = some header.2 ∧ header.2 ∈ allowed := by
  obtain ⟨name, value⟩ := header
  unfold Cors.originHeaders
  cases r.header? "origin" with
  | none => simp
  | some origin =>
    by_cases among : origin ∈ allowed
    · simp [allowOrigin, among]
      rintro rfl
      constructor
      · rintro rfl
        exact ⟨rfl, among⟩
      · rintro ⟨rfl, -⟩
        rfl
    · simp [among]
      rintro - rfl
      exact among

theorem allowOrigin_notMem_allowHeaders (r : Request) :
    allowOrigin ∉ (allowHeaders r).map (·.1) := by
  unfold allowHeaders
  split
  · split_ifs <;> simp [allowOrigin]
  · simp

/-- An answer allows the origin of its request if that is one of the server's, and no other. -/
theorem mem_allowed_iff (given : (s.answer r).response = .ok response) (origin : String) :
    (allowOrigin, origin) ∈ response.headers ↔
      r.header? "origin" = some origin ∧ origin ∈ s.settings.origins := by
  have silent := (answer_mild s r).silent
  simp only [Server.answer] at given
  generalize (if r.method = "OPTIONS" then plain Cors.preflight s else answerCaller s r) = o
    at given silent
  cases inner : o.response with
  | error crash => rw [inner] at given; cases given
  | ok first =>
    rw [inner] at given
    cases given
    have unsaid : (allowOrigin, origin) ∉ first.headers := fun there =>
      silent first inner (List.mem_map_of_mem there)
    have unlisted : (allowOrigin, origin) ∉ allowHeaders r := fun there =>
      allowOrigin_notMem_allowHeaders r (List.mem_map_of_mem there)
    have other : (allowOrigin, origin) ≠ Cors.vary := by simp [allowOrigin, Cors.vary]
    simp [finish, unsaid, unlisted, other, mem_originHeaders_iff]

end Http
end RoomHub
