import RoomHub.Proofs.Credentials
import RoomHub.Proofs.Http.Answers

/-!
# From a caller to an answer

A bearer header makes the user of its token known (`identify_of_bearer`).  Once it is known who asks, a
request whose route has its method gets the answer of the route (`answer_of_identified`), and one with a
bad header is refused for the header (`answer_of_unidentified`).  What a known caller is told of a chat log
and what becomes of a server whose room is closed follows from the room that the path names
(`answer_messages`, `answer_close`).
-/

namespace RoomHub
namespace Http

open Text

variable {s t : Server} {r : Request} {known : Option Identity} {user : Identity} {why : AuthError}
  {route : Route} {segment : List Char} {raw token : String}

/-! ### Who asks -/

theorem identify_of_bearer (presentable : Presentable token)
    (bearer : r.header? "authorization" = some ("Bearer " ++ token)) :
    (identify s r).1 = (Token.verify s.settings.secret s.now token).map some := by
  have verified := s.verify_fst token
  simp only [identify, bearer, presentable.isPlainValue_bearer, presentable.bearerToken_eq, if_true]
  rw [← verified]
  rcases s.verify token with ⟨result, t⟩
  cases result <;> rfl

theorem identify_of_no_bearer (absent : r.header? "authorization" = none) :
    identify s r = (.ok none, s) := by
  simp only [identify, absent]

/-- Requests with the same bearer header come from the same caller. -/
theorem identify_congr {a b : Request}
    (same : a.header? "authorization" = b.header? "authorization") (s : Server) :
    identify s a = identify s b := by
  simp only [identify, same]

/-! ### What is answered -/

/-- No route has the method that only asks what is allowed. -/
theorem ne_options_of_allowed (allowed : route.methods.contains r.method = true) :
    r.method ≠ "OPTIONS" := by
  intro options
  rw [options] at allowed
  cases route <;> simp [Route.methods] at allowed

theorem answer_of_identified (said : identify s r = (.ok known, t)) (routed : r.route? = some route)
    (allowed : route.methods.contains r.method = true) :
    s.answer r =
      { answerRoute t known r route with
          response := (answerRoute t known r route).response.map (finish s r) } := by
  simp only [Server.answer, if_neg (ne_options_of_allowed allowed), answerCaller, said, routed,
    if_pos allowed]

theorem answer_of_unidentified (method : r.method ≠ "OPTIONS")
    (said : identify s r = (.error why, t)) :
    s.answer r = ⟨.ok (finish s r (.ofAuthError why)), t, none⟩ := by
  simp only [Server.answer, if_neg method, answerCaller, said]
  rfl

/-- The answer that lists a chat log, if it could be read. -/
def logAnswer : Except ChatLogError (List ChatLogEntry) → Response
  | .ok entries => .json 200 (Json.writeArray (entries.map fun e => (Wire.ChatLine.ofEntry e).write))
  | .error _ => .empty 500

/-- A known caller who asks for a chat log gets that of the room that the path names. -/
theorem answer_messages (caller : (identify s r).1 = .ok (some user))
    (routed : r.route? = some (.messages segment))
    (allowed : (Route.messages segment).methods.contains r.method = true)
    (decoded : Percent.text? segment = some raw) :
    (s.answer r).response =
      .ok (finish s r
        (match RoomId.ofText raw with
          | .ok room => logAnswer (s.chatLog room)
          | .error _ => .empty 400)) := by
  obtain ⟨notices, said⟩ := identify_eq s r
  rw [caller] at said
  rw [answer_of_identified said routed allowed]
  simp only [answerRoute, answerMessages, decoded]
  cases RoomId.ofText raw with
  | error why => rfl
  | ok room =>
    have same : (s.report notices).chatLog room = s.chatLog room := rfl
    dsimp only
    rw [same]
    cases s.chatLog room <;> rfl

/-- A known caller who asks to close a room closes the one that the path names. -/
theorem answer_close (caller : (identify s r).1 = .ok (some user)) (posted : r.method = "POST")
    (routed : r.route? = some (.close segment)) (decoded : Percent.text? segment = some raw) :
    ∃ notices, (s.answer r).server =
      match RoomId.ofText raw with
      | .ok room => ((s.report notices).closeRoom user room).2
      | .error _ => s.report notices := by
  obtain ⟨notices, said⟩ := identify_eq s r
  rw [caller] at said
  refine ⟨notices, ?_⟩
  rw [answer_of_identified said routed (by simp [Route.methods, posted])]
  simp only [answerRoute, answerClose, decoded]
  cases RoomId.ofText raw with
  | error why => rfl
  | ok room =>
    dsimp only
    split
    next closed => rw [closed]; rfl
    next closed => rw [closed]
    next closed => rw [closed]; rfl

end Http
end RoomHub
