import RoomHub.Proofs.Http.Presenting
import RoomHub.Proofs.Sample
import RoomHub.Proofs.World.Coupling

/-!
# It does not matter how a token is presented

A request to enter a room that presents its token in the bearer header and one that presents the same
token in its query (`BothWays`) lead to the same world, but for what is reported, and they are refused
alike if the name of the room is a text (`presentations_agree`).
-/

namespace RoomHub

open Http Text

namespace World

/-- Two sound requests that are the same but for where they present a token, the first in its bearer
header and the second in its query. -/
structure BothWays (token : String) (a b : Request) : Prop where
  presentable : Presentable token
  siblings : Siblings a b
  sound : ∃ key, handshakeKey a = .ok key
  bearer : a.header? "authorization" = some ("Bearer " ++ token)
  single : (queryTokens a).length ≤ 1
  absent : b.header? "authorization" = none
  query : queryTokens b = [token]

variable {w : World} {token raw : String} {a b : Request} {segment : List Char}

namespace BothWays

variable (h : BothWays token a b) (routed : a.route? = some (.collaboration segment))
include h routed

theorem decide_alike (s : Server) (decoded : Percent.text? segment = some raw) :
    (s.answer a).Decides (s.verdict token raw) ∧ (s.answer b).Decides (s.verdict token raw) := by
  obtain ⟨key, shaken⟩ := h.sound
  exact ⟨decides_of_bearer h.presentable h.bearer shaken routed decoded h.single,
    decides_of_query h.presentable h.absent h.query (h.siblings.handshakeKey_eq ▸ shaken)
      (h.siblings.route?_eq ▸ routed) decoded⟩

theorem decide_no_text (s : Server) (garbled : Percent.text? segment = none) :
    (s.answer a).Decides
        (match Token.verify s.settings.secret s.now token with
          | .error why => .ofCode (Response.authCode why)
          | .ok _ => .refused 400 none) ∧
      (s.answer b).Decides (.refused 400 none) := by
  obtain ⟨key, shaken⟩ := h.sound
  exact ⟨decides_of_bearer_no_text h.presentable h.bearer shaken routed garbled,
    decides_of_no_text (identify_of_no_bearer h.absent) (h.siblings.route?_eq ▸ routed)
      (h.siblings.handshakeKey_eq ▸ shaken) garbled⟩

/-- The same user enters the same room, and the servers differ in what they report. -/
theorem answer_coupled (s : Server) :
    Outcome.Coupled Server.Like False (s.answer a) (s.answer b) := by
  have first := answer_server_like routed s
  have second := answer_server_like (h.siblings.route?_eq ▸ routed) s
  refine ⟨False.elim, ?_, first.trans second.symm⟩
  cases decoded : Percent.text? segment with
  | some raw =>
    obtain ⟨left, right⟩ := h.decide_alike routed s decoded
    rw [left.entering_eq, right.entering_eq]
  | none =>
    obtain ⟨left, right⟩ := h.decide_no_text routed s decoded
    rw [left.entering_eq, right.entering_eq]
    cases Token.verify s.settings.secret s.now token <;> rfl

end BothWays

/-- Whether a token comes in the bearer header or in the query, the same user enters the same room, or
both requests are refused with the same status and the same code, provided that the name of the room is a
text.  If it is none, both are refused, too; but with the token in the header it is the token that is
judged first.  Either way the worlds afterwards differ in their journals at most.  Behind a bearer header,
whatever it holds, the token of a query makes no difference at all. -/
theorem presentations_agree (w : World) :
    (∀ token a b segment, BothWays token a b → a.route? = some (.collaboration segment) →
      (∀ raw, Percent.text? segment = some raw →
        (w.server.answer a).Decides (w.server.verdict token raw) ∧
          (w.server.answer b).Decides (w.server.verdict token raw)) ∧
      (Percent.text? segment = none →
        (w.server.answer a).Decides
            (match Token.verify w.server.settings.secret w.server.now token with
              | .error why => .ofCode (Response.authCode why)
              | .ok _ => .refused 400 none) ∧
          (w.server.answer b).Decides (.refused 400 none)) ∧
      ∀ time id, Coupled Server.Like (w.step time (.request id a)) (w.step time (.request id b))) ∧
    ∀ a b, Siblings a b → a.header? "authorization" = b.header? "authorization" →
      a.header? "authorization" ≠ none → (queryTokens a).length ≤ 1 →
      (queryTokens b).length ≤ 1 →
      w.server.answer a = w.server.answer b ∧
        ∀ time id, w.step time (.request id a) = w.step time (.request id b) := by
  refine ⟨fun token a b segment ways routed => ⟨fun raw => ways.decide_alike routed w.server,
    ways.decide_no_text routed w.server, ?_⟩, fun a b siblings same present single single' => ?_⟩
  · have refl : Coupled Server.Like w w := ⟨rfl, rfl, rfl, rfl⟩
    exact refl.request Server.like_roomCoupling (ways.answer_coupled routed w.server)
  · have answered := siblings.answer_eq same present single single' w.server
    refine ⟨answered, fun time id => ?_⟩
    simp only [step, answer, answered]

/-! ### One request of each kind -/

/-- The headers of a request to open a socket. -/
def socketHeaders : Headers :=
  [("connection", "Upgrade"), ("upgrade", "websocket"), ("sec-websocket-key", "a key"),
    ("sec-websocket-version", "13")]

/-- A request to enter a room, with a token in the bearer header. -/
def headerRequest (room token : String) : Request where
  method := "GET"
  resource := ("/collaboration/" ++ room).toList
  headers := socketHeaders ++ [("authorization", "Bearer " ++ token)]
  upgradable := true

/-- A request to enter a room, with a token in the query. -/
def queryRequest (room token : String) : Request where
  method := "GET"
  resource := ("/collaboration/" ++ room ++ "?token=" ++ token).toList
  headers := socketHeaders
  upgradable := true

theorem bothWays_requests {room token : String} (presentable : Presentable token)
    (path : (headerRequest room token).path = (queryRequest room token).path)
    (silent : queryTokens (headerRequest room token) = [])
    (spoken : queryTokens (queryRequest room token) = [token]) :
    BothWays token (headerRequest room token) (queryRequest room token) where
  presentable := presentable
  siblings := by
    refine ⟨rfl, path, fun name other => ?_, rfl⟩
    have absent : List.lookup name [("authorization", "Bearer " ++ token)] = none :=
      List.lookup_eq_none_iff.2 (by simpa using other)
    simp only [Request.header?, headerRequest, queryRequest, List.lookup_append, absent,
      Option.or_none]
  sound := ⟨"a key", rfl⟩
  bearer := rfl
  single := by rw [silent]; decide
  absent := rfl
  query := spoken

/-- With a room that is no text, a bad token is rejected for what it is only in the header. -/
theorem garbled_room_tells_ways_apart :
    BothWays "x" (headerRequest "%FF" "x") (queryRequest "%FF" "x") ∧
      (headerRequest "%FF" "x").route? = some (.collaboration "%FF".toList) ∧
      ¬ ∃ verdict, (Sample.server.answer (headerRequest "%FF" "x")).Decides verdict ∧
        (Sample.server.answer (queryRequest "%FF" "x")).Decides verdict := by
  have ways : BothWays "x" (headerRequest "%FF" "x") (queryRequest "%FF" "x") :=
    bothWays_requests (by decide) (by decide +kernel) (by decide +kernel)
      (by decide +kernel)
  have routed : (headerRequest "%FF" "x").route? = some (.collaboration "%FF".toList) := by
    decide +kernel
  refine ⟨ways, routed, ?_⟩
  rintro ⟨verdict, first, second⟩
  obtain ⟨left, right⟩ := ways.decide_no_text routed Sample.server (by decide +kernel)
  have rejected : Token.verify Sample.server.settings.secret Sample.server.now "x" =
      .error (.invalidToken "InvalidToken") := by
    rfl
  rw [rejected] at left
  cases (left.unique first).trans (second.unique right)

/-- Ann enters the studio, whether her token comes in the header or in the query. -/
theorem presentations_agree_ann :
    BothWays Sample.annToken (headerRequest "studio" Sample.annToken)
        (queryRequest "studio" Sample.annToken) ∧
      (Sample.server.answer (headerRequest "studio" Sample.annToken)).Decides
        (.enters Sample.ann Sample.studio) ∧
      (Sample.server.answer (queryRequest "studio" Sample.annToken)).Decides
        (.enters Sample.ann Sample.studio) := by
  have ways : BothWays Sample.annToken (headerRequest "studio" Sample.annToken)
      (queryRequest "studio" Sample.annToken) :=
    bothWays_requests Sample.presentable_annToken (by decide +kernel) (by decide +kernel)
      (by decide +kernel)
  have verdict : Sample.server.verdict Sample.annToken "studio" =
      .enters Sample.ann Sample.studio := by
    have verified : Token.verify Sample.server.settings.secret Sample.server.now Sample.annToken =
        .ok Sample.ann := Sample.verify_annToken
    have named : RoomId.ofText "studio" = .ok Sample.studio := by rfl
    rw [Server.verdict, verified, named]
  have agree := ((presentations_agree (World.ofServer Sample.server)).1 _ _ _ "studio".toList ways
    (by decide +kernel)).1 "studio" (by decide +kernel)
  rw [← verdict]
  exact ⟨ways, agree⟩

end World
end RoomHub
