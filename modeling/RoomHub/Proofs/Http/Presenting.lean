import RoomHub.Proofs.Http.Refusals
import RoomHub.Proofs.Http.Routing
import RoomHub.Proofs.Server.Coupling
import RoomHub.Proofs.Wire.RoundTrip

/-!
# Two ways to present a token

A token comes in a bearer header, which is read before anything else of a request, or in the query, which
is read when somebody is to enter a room.  Either way it is verified alike, and so a sound request to
enter a room has the same `Verdict` if its room is a text (`decides_of_bearer`, `decides_of_query`).
Otherwise the order of the checks shows (`decides_of_bearer_no_text`, `decides_of_no_text`).  Behind a
bearer header the token of a query makes no difference (`Siblings.answer_eq`).
-/

namespace RoomHub

open Http

/-- What becomes of a request to enter a room. -/
inductive Verdict where
  /-- A socket is opened, over which a user enters a room. -/
  | enters (user : Identity) (room : RoomId)
  /-- The request is refused with a status and perhaps with a code. -/
  | refused (status : Nat) (code : Option String)
  deriving DecidableEq

/-- Who enters which room. -/
def Verdict.entering? : Verdict → Option (Identity × RoomId)
  | .enters user room => some (user, room)
  | .refused _ _ => none

/-- A refusal as its status and its code. -/
def Verdict.ofCode (code : Nat × String) : Verdict := .refused code.1 (some code.2)

/-- What becomes of a sound request to enter the room that a text names, with a token. -/
def Server.verdict (s : Server) (token raw : String) : Verdict :=
  match Token.verify s.settings.secret s.now token, RoomId.ofText raw with
  | .error why, _ => .ofCode (Response.authCode why)
  | .ok _, .error _ => .ofCode (400, "invalid_room_id")
  | .ok user, .ok room => .enters user room

namespace Http

open Server Text

/-- The code in the body of an answer, if it tells why a request is refused. -/
def Response.errorCode? (response : Response) : Option String :=
  (Json.decode Wire.Failure.record.read (Utf8.ofText response.body)).toOption.map (·.errorCode)

/-- An outcome decides what becomes of a request to enter a room. -/
inductive Outcome.Decides (o : Outcome) : Verdict → Prop
  | enters {response : Response} {user : Identity} {room : RoomId}
      (given : o.response = .ok response) (opens : response.status = 101)
      (entering : o.entering = some (user, room)) : o.Decides (.enters user room)
  | refused {response : Response} (given : o.response = .ok response)
      (refuses : response.Refuses) (nobody : o.entering = none) :
      o.Decides (.refused response.status response.errorCode?)

namespace Outcome.Decides

variable {o : Outcome} {v v' : Verdict}

theorem entering_eq (h : o.Decides v) : o.entering = v.entering? := by
  cases h with
  | enters given opens entering => exact entering
  | refused given refuses nobody => exact nobody

/-- An outcome decides in one way. -/
theorem unique (h : o.Decides v) (h' : o.Decides v') : v = v' := by
  cases h with
  | enters given opens entering =>
    cases h' with
    | enters given' opens' entering' =>
      obtain ⟨rfl, rfl⟩ := Prod.ext_iff.1 (Option.some.inj (entering.symm.trans entering'))
      rfl
    | refused given' refuses nobody => cases entering.symm.trans nobody
  | refused given refuses nobody =>
    cases h' with
    | enters given' opens entering => cases entering.symm.trans nobody
    | refused given' refuses' nobody' =>
      cases Except.ok.inj (given.symm.trans given')
      rfl

end Outcome.Decides

variable {s t : Server} {r : Request} {known : Option Identity} {segment : List Char}
  {token raw key : String}

/-! ### Codes -/

theorem errorCode?_refusal (code : Nat × String) (message : String) :
    (Response.refusal code message).errorCode? = some code.2 := by
  simp only [Response.errorCode?, Response.refusal, Response.json, Utf8.ofText,
    String.toList_ofList, Json.decode_encode (Wire.reads_failure _)]
  rfl

theorem errorCode?_badPath : badPath.errorCode? = none := by
  decide +kernel

theorem refuses_authCode (why : AuthError) : 400 ≤ (Response.authCode why).1 := by
  cases why <;> simp [Response.authCode]

/-- What an answer refuses it refuses with the same code after the headers were added. -/
theorem Outcome.Decides.finished {o : Outcome} {response : Response} (method : r.method = "GET")
    (given : o.response = .ok (finish s r response)) (refuses : response.Refuses)
    (nobody : o.entering = none) : o.Decides (.refused response.status response.errorCode?) := by
  have body : (finish s r response).body = response.body := by
    simp [finish, method]
  have code : (finish s r response).errorCode? = response.errorCode? := by
    simp only [Response.errorCode?, body]
  exact code ▸ .refused given refuses nobody

theorem Outcome.Decides.ofCode {o : Outcome} {code : Nat × String} {message : String}
    (method : r.method = "GET") (given : o.response = .ok (finish s r (.refusal code message)))
    (refuses : 400 ≤ code.1) (nobody : o.entering = none) : o.Decides (.ofCode code) := by
  have decided := Outcome.Decides.finished method given refuses nobody
  rwa [errorCode?_refusal] at decided

/-! ### Verifying a token -/

theorem authenticate_of_query (presentable : Presentable token) :
    (s.authenticate none (some token)).1 =
      (Token.verify s.settings.secret s.now token).mapError .unauthorized := by
  simp only [Server.authenticate, presentable.presentedToken_eq, verify_fst]

/-! ### What is said of a sound request -/

theorem method_of_handshakeKey (shaken : handshakeKey r = .ok key) : r.method = "GET" := by
  by_contra other
  simp [handshakeKey, other] at shaken

theorem allowed_of_handshakeKey (shaken : handshakeKey r = .ok key) :
    (Route.collaboration segment).methods.contains r.method = true := by
  rw [method_of_handshakeKey shaken]
  rfl

/-- A sound request for a room that is a text presents its token first, then the room. -/
theorem answerCollaboration_of_sound (shaken : handshakeKey r = .ok key)
    (decoded : Percent.text? segment = some raw) (single : (queryTokens r).length ≤ 1) :
    answerCollaboration t known segment r =
      match t.authenticate known (queryTokens r).head? with
      | (.error e, s) => plain (.ofAdmissionError e) (s.report [.connectionRejected raw e])
      | (.ok identity, s) =>
        match admissionRoom raw with
        | .error e => plain (.ofAdmissionError e) s
        | .ok room => ⟨.ok (accepted key), s, some (identity, room)⟩ := by
  simp only [answerCollaboration, shaken, decoded]
  split
  next absent => cases absent
  next several => simp [several] at single
  next same _ => cases same; rfl

/-- Once a token is verified, the room decides. -/
theorem decides_of_authenticated (said : identify s r = (.ok known, t))
    (routed : r.route? = some (.collaboration segment)) (shaken : handshakeKey r = .ok key)
    (decoded : Percent.text? segment = some raw) (single : (queryTokens r).length ≤ 1)
    (authentic : (t.authenticate known (queryTokens r).head?).1 =
      (Token.verify s.settings.secret s.now token).mapError .unauthorized) :
    (s.answer r).Decides (s.verdict token raw) := by
  have method := method_of_handshakeKey shaken
  rw [answer_of_identified said routed (allowed_of_handshakeKey shaken), answerRoute,
    answerCollaboration_of_sound shaken decoded single]
  unfold Server.verdict
  generalize t.authenticate known (queryTokens r).head? = authenticated at authentic ⊢
  obtain ⟨result, u⟩ := authenticated
  cases verified : Token.verify s.settings.secret s.now token with
  | error why =>
    obtain rfl := authentic.trans (congrArg _ verified)
    exact .ofCode method rfl (refuses_authCode why) rfl
  | ok user =>
    obtain rfl := authentic.trans (congrArg _ verified)
    unfold admissionRoom
    cases RoomId.ofText raw with
    | error why => exact .ofCode method rfl (by decide) rfl
    | ok room => exact .enters rfl rfl rfl

/-- A room that is no text is refused without a code. -/
theorem decides_of_no_text (said : identify s r = (.ok known, t))
    (routed : r.route? = some (.collaboration segment)) (shaken : handshakeKey r = .ok key)
    (garbled : Percent.text? segment = none) : (s.answer r).Decides (.refused 400 none) := by
  have method := method_of_handshakeKey shaken
  rw [answer_of_identified said routed (allowed_of_handshakeKey shaken)]
  simp only [answerRoute, answerCollaboration, shaken, garbled]
  have refuses : badPath.Refuses := by decide
  rw [← errorCode?_badPath]
  exact .finished method rfl refuses rfl

/-- A request to enter a room is answered with nothing done but a report. -/
theorem answer_server_like (routed : r.route? = some (.collaboration segment)) (s : Server) :
    (s.answer r).server.Like s := by
  have effect := effect_answer s r
  generalize (s.answer r).server = t, (s.answer r).entering = entering at effect
  cases effect with
  | reports notices => rfl
  | closes notices posted closing named verified => cases routed.symm.trans closing
  | admits notices entered named verified => rfl

/-! ### The bearer header -/

section Bearer

variable (presentable : Presentable token)
  (bearer : r.header? "authorization" = some ("Bearer " ++ token)) (shaken : handshakeKey r = .ok key)
include presentable bearer shaken

/-- A token in the header is rejected before the room is looked at. -/
theorem decides_of_rejected {why : AuthError}
    (rejected : Token.verify s.settings.secret s.now token = .error why) :
    (s.answer r).Decides (.ofCode (Response.authCode why)) := by
  have method := method_of_handshakeKey shaken
  obtain ⟨notices, said⟩ := identify_eq s r
  rw [identify_of_bearer presentable bearer, rejected] at said
  rw [answer_of_unidentified (by rw [method]; decide) said]
  exact .ofCode method rfl (refuses_authCode why) rfl

theorem decides_of_bearer (routed : r.route? = some (.collaboration segment))
    (decoded : Percent.text? segment = some raw) (single : (queryTokens r).length ≤ 1) :
    (s.answer r).Decides (s.verdict token raw) := by
  cases verified : Token.verify s.settings.secret s.now token with
  | error why =>
    have rejected : s.verdict token raw = .ofCode (Response.authCode why) := by
      simp only [Server.verdict, verified]
    rw [rejected]
    exact decides_of_rejected presentable bearer shaken verified
  | ok user =>
    obtain ⟨notices, said⟩ := identify_eq s r
    rw [identify_of_bearer presentable bearer, verified] at said
    exact decides_of_authenticated said routed shaken decoded single (by rw [verified]; rfl)

theorem decides_of_bearer_no_text (routed : r.route? = some (.collaboration segment))
    (garbled : Percent.text? segment = none) :
    (s.answer r).Decides
      (match Token.verify s.settings.secret s.now token with
        | .error why => .ofCode (Response.authCode why)
        | .ok _ => .refused 400 none) := by
  cases verified : Token.verify s.settings.secret s.now token with
  | error why => exact decides_of_rejected presentable bearer shaken verified
  | ok user =>
    obtain ⟨notices, said⟩ := identify_eq s r
    rw [identify_of_bearer presentable bearer, verified] at said
    exact decides_of_no_text said routed shaken garbled

end Bearer

/-! ### The query -/

theorem decides_of_query (presentable : Presentable token)
    (absent : r.header? "authorization" = none) (query : queryTokens r = [token])
    (shaken : handshakeKey r = .ok key) (routed : r.route? = some (.collaboration segment))
    (decoded : Percent.text? segment = some raw) : (s.answer r).Decides (s.verdict token raw) := by
  refine decides_of_authenticated (identify_of_no_bearer absent) routed shaken decoded
    (by rw [query]; exact Nat.le_refl 1) ?_
  rw [query]
  exact authenticate_of_query presentable

/-! ### Requests that present something else -/

/-- Two requests differ in their bearer headers and in their queries at most. -/
structure Siblings (a b : Request) : Prop where
  method : a.method = b.method
  path : a.path = b.path
  headers : ∀ name, name ≠ "authorization" → a.header? name = b.header? name
  upgradable : a.upgradable = b.upgradable

namespace Siblings

variable {a b : Request} (h : Siblings a b)
include h

theorem route?_eq : a.route? = b.route? := by
  simp only [Request.route?, h.path]

theorem headerIs_eq {name : String} (other : name ≠ "authorization") (value : String) :
    a.headerIs name value = b.headerIs name value := by
  simp only [Request.headerIs, h.headers name other]

theorem handshakeKey_eq : handshakeKey a = handshakeKey b := by
  have mentions : a.headerMentions "connection" "upgrade" =
      b.headerMentions "connection" "upgrade" := by
    simp only [Request.headerMentions, h.headers "connection" (by decide)]
  unfold handshakeKey
  rw [h.method, mentions, h.headerIs_eq (by decide), h.headers "sec-websocket-key" (by decide),
    h.headerIs_eq (by decide), h.upgradable]

theorem finish_eq (s : Server) : finish s a = finish s b := by
  funext response
  simp only [finish, allowHeaders, Cors.originHeaders, h.method, h.route?_eq,
    h.headers "origin" (by decide)]

/-- Who is known is admitted without a look at the tokens of a query, unless there are several. -/
theorem answerCollaboration_eq (s : Server) (user : Identity) (segment : List Char)
    (single : (queryTokens a).length ≤ 1) (single' : (queryTokens b).length ≤ 1) :
    answerCollaboration s (some user) segment a = answerCollaboration s (some user) segment b := by
  unfold answerCollaboration
  rw [h.handshakeKey_eq]
  cases handshakeKey b with
  | error fault => rfl
  | ok key =>
    cases Percent.text? segment with
    | none => rfl
    | some raw =>
      match queryTokens a, queryTokens b, single, single' with
      | [], [], _, _ | [], [_], _, _ | [_], [], _, _ | [_], [_], _, _ => rfl

/-- Behind a bearer header, the tokens of a query make no difference, unless there are several. -/
theorem answer_eq (same : a.header? "authorization" = b.header? "authorization")
    (present : a.header? "authorization" ≠ none) (single : (queryTokens a).length ≤ 1)
    (single' : (queryTokens b).length ≤ 1) (s : Server) : s.answer a = s.answer b := by
  have caller : answerCaller s a = answerCaller s b := by
    unfold answerCaller
    rw [← identify_congr same, ← h.route?_eq, ← h.method]
    obtain ⟨notices, said⟩ := identify_eq s a
    rw [said]
    cases known : (identify s a).1 with
    | error why => rfl
    | ok identity =>
      cases identity with
      | none => exact absurd (identify_none known) present
      | some user =>
        cases a.route? with
        | none => rfl
        | some route =>
          cases route with
          | collaboration segment =>
            simp only [answerRoute, h.answerCollaboration_eq _ user segment single single']
          | _ => rfl
  simp only [Server.answer, h.method, caller, h.finish_eq]

end Siblings
end Http
end RoomHub
