import RoomHub.Proofs.Http.Answers
import RoomHub.Proofs.Server.Coupling

/-!
# Answers of servers that go the same way

Related servers answer alike (`Outcome.Coupled`): they name the same entrant and stay related, and
the responses are the same as far as one cares.  `answer_coupled` says so of a request if it holds
of what the request reads, the list of rooms or a chat log.
-/

namespace RoomHub
namespace Http

open Server Text

/-- Two outcomes have related servers and the same entrant, and the same response if one cares. -/
structure Outcome.Coupled (R : Server → Server → Prop) (cares : Prop) (o p : Outcome) : Prop where
  response : cares → o.response = p.response
  entering : o.entering = p.entering
  server : R o.server p.server

variable {R : Server → Server → Prop} {cares : Prop} {s t : Server} {room : RoomId}
  {segment : List Char}

theorem plain_coupled (h : R s t) (response : Response) :
    Outcome.Coupled R cares (plain response s) (plain response t) :=
  ⟨fun _ => rfl, rfl, h⟩

/-- A part of a path that denotes a room is a text that is read as the room. -/
theorem text_of_roomOf? (named : roomOf? segment = some room) :
    ∃ raw, Percent.text? segment = some raw ∧ RoomId.ofText raw = .ok room := by
  unfold roomOf? at named
  obtain ⟨raw, decoded, read⟩ := Option.bind_eq_some_iff.1 named
  refine ⟨raw, decoded, ?_⟩
  cases parsed : RoomId.ofText raw with
  | error why => simp [parsed, Except.toOption] at read
  | ok found => simpa [parsed, Except.toOption] using read

theorem identify_coupled (K : Coupling R) (h : R s t) (r : Request) :
    Coupled R (identify s r) (identify t r) := by
  unfold identify
  cases r.header? "authorization" with
  | none => exact ⟨rfl, h⟩
  | some value =>
    dsimp only
    split_ifs
    · cases bearerToken value with
      | error why => exact ⟨rfl, h⟩
      | ok token =>
        obtain ⟨result, s', t', hs, ht, related⟩ := (K.verify h token).split
        dsimp only
        rw [hs, ht]
        cases result with
        | error why => exact ⟨rfl, related⟩
        | ok identity => exact ⟨rfl, K.report _ related⟩
    · exact ⟨rfl, h⟩

theorem answerClose_coupled (K : ∀ room, roomOf? segment = some room → RoomCoupling room R)
    (h : R s t) (known : Option Identity) :
    Outcome.Coupled R cares (answerClose s known segment) (answerClose t known segment) := by
  unfold answerClose
  split
  · exact plain_coupled h _
  · exact plain_coupled h _
  next user raw decoded =>
    split
    · exact plain_coupled h _
    next room read =>
      have named : roomOf? segment = some room := by simp [roomOf?, decoded, read, Except.toOption]
      obtain ⟨result, s', t', hs, ht, related⟩ := ((K room named).closeRoom h user).split
      rw [hs, ht]
      cases result with
      | ok notified => exact plain_coupled related _
      | error why =>
        cases why with
        | refused why => exact plain_coupled related _
        | crashed crash => exact ⟨fun _ => rfl, rfl, related⟩

theorem answerCollaboration_coupled (K : Coupling R) (h : R s t) (known : Option Identity)
    (segment : List Char) (r : Request) :
    Outcome.Coupled R cares (answerCollaboration s known segment r)
      (answerCollaboration t known segment r) := by
  unfold answerCollaboration
  cases handshakeKey r with
  | error fault => exact plain_coupled h _
  | ok key =>
    dsimp only
    split
    · exact plain_coupled h _
    · exact plain_coupled h _
    · obtain ⟨result, s', t', hs, ht, related⟩ :=
        (K.authenticate h known (queryTokens r).head?).split
      rw [hs, ht]
      cases result with
      | error why => exact plain_coupled (K.report _ related) _
      | ok identity =>
        dsimp only
        split
        · exact plain_coupled related _
        · exact ⟨fun _ => rfl, rfl, related⟩

/-- Related servers give the same answer to a request that is known to be for a room of theirs and
to read the same of both. -/
theorem answer_coupled (K : Coupling R) {r : Request}
    (closing : ∀ segment room, r.route? = some (.close segment) → roomOf? segment = some room →
      RoomCoupling room R)
    (listing : ∀ s t, r.route? = some .rooms → R s t →
      Outcome.Coupled R cares (answerRooms s) (answerRooms t))
    (reading : ∀ s t known segment, r.route? = some (.messages segment) →
      (Route.messages segment).methods.contains r.method = true → R s t →
      Outcome.Coupled R cares (answerMessages s known segment) (answerMessages t known segment))
    (h : R s t) : Outcome.Coupled R cares (s.answer r) (t.answer r) := by
  have caller : Outcome.Coupled R cares (answerCaller s r) (answerCaller t r) := by
    obtain ⟨result, s', t', hs, ht, related⟩ := (identify_coupled K h r).split
    unfold answerCaller
    rw [hs, ht]
    cases result with
    | error why => exact plain_coupled related _
    | ok known =>
      dsimp only
      split
      · exact plain_coupled related _
      next route named =>
        split_ifs with allowed
        · cases route with
          | collaboration segment => exact answerCollaboration_coupled K related known segment r
          | health => exact plain_coupled related _
          | rooms => exact listing _ _ named related
          | messages segment => exact reading _ _ known segment named allowed related
          | close segment =>
            exact answerClose_coupled (fun room => closing segment room named) related known
        · exact plain_coupled related _
  have finished : finish s r = finish t r := by
    funext response
    simp only [finish, K.settings h]
  simp only [Server.answer]
  split_ifs
  · exact ⟨fun _ => by rw [finished]; rfl, rfl, h⟩
  · exact ⟨fun cared => by rw [finished, caller.response cared], caller.entering, caller.server⟩

end Http
end RoomHub
