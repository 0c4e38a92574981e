import RoomHub.Proofs.Http.Answers

/-!
# Refused requests

A request may be refused for its bearer header, its route or its method, for a faulty handshake,
path or query, for a token, a room or a role, or because the chat log cannot be read.  Wherever that
happens, the server has done nothing but report and nobody may enter: `Outcome.Spares` says so of
an outcome, and `answer_spares` of the answer to any request.
-/

namespace RoomHub

namespace Server

/-- A closing request without a result leaves the server as it is. -/
theorem closeRoom_snd_of_error {s t : Server} {user : Identity} {room : RoomId}
    {why : Failure CloseRoomError} (failed : s.closeRoom user room = (.error why, t)) : t = s := by
  unfold closeRoom at failed
  split_ifs at failed
  · cases failed
    rfl
  · split at failed
    · cases failed
    · cases failed
      rfl
    next shown _ _ =>
      obtain unheard | ⟨hub, notices, -, -, heard⟩ :=
        s.send_cases room (.broadcast (.roomClosed user.userId room shown))
      · rw [unheard] at failed
        cases failed
        rfl
      · rw [heard] at failed
        cases failed

end Server

namespace Http

open Text

/-- A request is refused with the answer, for a fault of the caller (4xx) or of the server (5xx). -/
def Response.Refuses (response : Response) : Prop := 400 ≤ response.status

instance (response : Response) : Decidable response.Refuses :=
  inferInstanceAs (Decidable (400 ≤ response.status))

/-- If the request is refused, then the server has only reported, and nobody enters a room. -/
def Outcome.Spares (o : Outcome) (s : Server) : Prop :=
  ∀ response, o.response = .ok response → response.Refuses →
    o.entering = none ∧ ∃ notices, o.server = s.report notices

variable {s : Server} {o : Outcome}

theorem Outcome.Spares.of_report {before : List Notice} (h : o.Spares (s.report before)) :
    o.Spares s := by
  intro response given refuses
  obtain ⟨nobody, notices, same⟩ := h response given refuses
  exact ⟨nobody, before ++ notices, by rw [same, Server.report_report]⟩

/-- Whatever an outcome is like, it spares the server if it refuses nothing. -/
theorem Outcome.spares_of_status {response : Response} (given : o.response = .ok response)
    (small : response.status < 400) : o.Spares s := by
  intro other given' refuses
  rw [given] at given'
  cases given'
  exact absurd refuses (Nat.not_le.2 small)

theorem plain_spares (response : Response) (s : Server) : (plain response s).Spares s :=
  fun _ _ _ => ⟨rfl, [], s.report_nil.symm⟩

theorem answerMessages_spares (s : Server) (known : Option Identity) (segment : List Char) :
    (answerMessages s known segment).Spares s := by
  unfold answerMessages
  split
  · exact plain_spares _ s
  · exact plain_spares _ s
  · split
    · exact plain_spares _ s
    · split
      · exact (plain_spares _ _).of_report
      · exact (plain_spares _ _).of_report

/-- A room is closed only with the answer that says so. -/
theorem answerClose_spares (s : Server) (known : Option Identity) (segment : List Char) :
    (answerClose s known segment).Spares s := by
  unfold answerClose
  split
  · exact plain_spares _ s
  · exact plain_spares _ s
  · split
    · exact plain_spares _ s
    · split
      next failed =>
        rw [Server.closeRoom_snd_of_error failed]
        exact plain_spares _ s
      · exact fun _ lost _ => nomatch lost
      · exact Outcome.spares_of_status rfl (by decide : 200 < 400)

/-- Somebody may enter only with the answer that opens a socket. -/
theorem answerCollaboration_spares (s : Server) (known : Option Identity) (segment : List Char)
    (r : Request) : (answerCollaboration s known segment r).Spares s := by
  unfold answerCollaboration
  split
  · exact plain_spares _ s
  · split
    · exact plain_spares _ s
    · exact plain_spares _ s
    · obtain ⟨notices, reported⟩ := s.authenticate_snd known (queryTokens r).head?
      have asked : s.authenticate known (queryTokens r).head? =
          ((s.authenticate known (queryTokens r).head?).1, s.report notices) :=
        Prod.ext rfl reported
      rw [asked]
      cases (s.authenticate known (queryTokens r).head?).1 with
      | error why => exact (plain_spares _ _).of_report.of_report
      | ok user =>
        dsimp only
        split
        · exact (plain_spares _ _).of_report
        · exact Outcome.spares_of_status rfl (by decide : 101 < 400)

theorem answerRoute_spares (s : Server) (known : Option Identity) (r : Request) (route : Route) :
    (answerRoute s known r route).Spares s := by
  cases route with
  | collaboration segment => exact answerCollaboration_spares s known segment r
  | health => exact plain_spares _ s
  | rooms => exact (plain_spares _ _).of_report
  | messages segment => exact answerMessages_spares s known segment
  | close segment => exact answerClose_spares s known segment

theorem answerCaller_spares (s : Server) (r : Request) : (answerCaller s r).Spares s := by
  obtain ⟨notices, said⟩ := identify_eq s r
  unfold answerCaller
  rw [said]
  cases (identify s r).1 with
  | error why => exact (plain_spares _ _).of_report
  | ok known =>
    refine @Outcome.Spares.of_report s _ notices ?_
    dsimp only
    split
    · exact plain_spares _ _
    next route _ =>
      split_ifs
      · exact answerRoute_spares _ known r route
      · exact plain_spares _ _

/-- A server that refuses a request has only reported, and nobody enters. -/
theorem answer_spares (s : Server) (r : Request) : (s.answer r).Spares s := by
  have spares : (if r.method = "OPTIONS" then plain Cors.preflight s
      else answerCaller s r).Spares s := by
    split_ifs
    · exact plain_spares _ s
    · exact answerCaller_spares s r
  intro response given refuses
  simp only [Server.answer] at given ⊢
  cases inner : (if r.method = "OPTIONS" then plain Cors.preflight s
      else answerCaller s r).response with
  | error crash => rw [inner] at given; cases given
  | ok first =>
    rw [inner] at given
    cases given
    exact spares first inner refuses

end Http
end RoomHub
