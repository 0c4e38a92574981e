import RoomHub.Proofs.Token.Claims
import RoomHub.Proofs.Token.Parts

/-!
# Issued tokens are accepted while they last

Under the same secret an issued token gives back its claims up to and including its last second
(`verifyClaims_issueClaims`), and the claims of an identity give back the identity
(`identity_ofIdentity`).  Under a secret that signs the first two parts in another way no issued
token is accepted.  `issued_tokens_verify` puts it together.
-/

namespace RoomHub

open Json Text

theorem identity_ofIdentity (i : Identity) (exp : Int) :
    (Claims.ofIdentity i exp).identity = .ok i := by
  obtain ⟨⟨user, seen⟩, ⟨name, shown⟩, role⟩ := i
  have userId : UserId.ofText user = .ok ⟨user, seen⟩ := dif_pos seen
  have displayName : DisplayName.ofText name = .ok ⟨name, shown⟩ := dif_pos shown
  cases role
  all_goals
    simp only [Claims.identity, Claims.ofIdentity, userId, displayName, Identity.isAdmin,
      Option.bind_some]
    rfl

namespace Token

/-! ### The header -/

theorem reads_dropped {name value : String} (s : Fields) :
    Reads ((dropped name readString).read s) (writeText value) { s with seen := name :: s.seen } := by
  intro rest closes
  show ((readOptional readString _).map _) = _
  rw [Claims.reads_present value rest closes]
  rfl

theorem decode_issuedHeader :
    Json.decode header.read (Utf8.encode issuedHeader.toList) = .ok .hs256 := by
  have written : issuedHeader.toList =
      writeObject [("typ", writeText "JWT"), ("alg", writeText "HS256")] := by decide
  have algorithm : Reads (readChoice algorithms) (writeText "HS256") .hs256 :=
    reads_choice rfl
  rw [written]
  exact Json.decode_encode (reads_object
    (.cons (takes_known rfl rfl (reads_dropped _))
    (.cons (takes_known rfl rfl (reads_fieldOf algorithm _)) (.nil _))) rfl)

/-! ### The claims -/

/-- What a token says before its signature. -/
def signedText (c : Claims) : List Char :=
  encodePart issuedHeader.toList ++ '.' :: encodePart c.write

theorem toList_issueClaims (secret : String) (c : Claims) :
    (issueClaims secret c).toList = signedText c ++ '.' :: signatureOf secret (signedText c) :=
  String.toList_ofList

theorem signedPart_issueClaims (secret other : String) (c : Claims) :
    signedPart (Utf8.ofText other) (Utf8.ofText (issueClaims secret c)) =
      if signatureOf secret (signedText c) = signatureOf other (signedText c) then
        .ok (Utf8.encode (encodePart c.write))
      else .error .signature := by
  rw [show Utf8.ofText (issueClaims secret c) = Utf8.encode (issueClaims secret c).toList from rfl,
    toList_issueClaims]
  exact signedPart_of_header (Base64.dot_not_mem_encode _) (Base64.dot_not_mem_encode _)
    decode_issuedHeader

theorem checkRegistered_timeOf (now : Nat) (exp : Int) :
    checkRegistered now ⟨timeOf exp, .absent, .absent, .absent, .absent⟩ =
      if exp < 0 then .error (.missingClaim "exp")
      else if now ≤ exp then .ok () else .error .expired := by
  unfold timeOf
  by_cases negative : exp < 0
  · rw [if_neg (by omega), if_pos negative]
    rfl
  · rw [if_pos (by omega), if_neg negative]
    show (if exp.toNat < now then _ else _) = _
    by_cases inTime : now ≤ exp
    · rw [if_neg (by omega), if_pos inTime]
    · rw [if_pos (by omega), if_neg inTime]

theorem verifyClaims_issueClaims (secret : String) (now : Nat) {c : Claims}
    (low : -(Decimal.twoTo 63 : Int) ≤ c.exp) (high : c.exp < Decimal.twoTo 63) :
    verifyClaims secret now (issueClaims secret c) =
      if c.exp < 0 then .error (.missingClaim "exp")
      else if now ≤ c.exp then .ok c else .error .expired := by
  have part : decodePart (Utf8.encode (encodePart c.write)) = .ok (Utf8.encode c.write) :=
    decodePart_eq_ok_iff.mpr rfl
  have claims : decodeJson Claims.record.read (Utf8.encode c.write) = .ok c :=
    decodeJson_eq_ok_iff.mpr (Json.decode_encode (Claims.reads_claims low high))
  have registered : decodeJson Registered.record.read (Utf8.encode c.write) =
      .ok ⟨timeOf c.exp, .absent, .absent, .absent, .absent⟩ :=
    decodeJson_eq_ok_iff.mpr (Json.decode_encode (reads_registered low high))
  unfold verifyClaims
  rw [signedPart_issueClaims, if_pos rfl]
  simp only [part, claims, registered, checkRegistered_timeOf, bind, Except.bind]
  by_cases negative : c.exp < 0
  · rw [if_pos negative, if_pos negative]
  · rw [if_neg negative, if_neg negative]
    by_cases inTime : now ≤ c.exp
    · rw [if_pos inTime, if_pos inTime]
      rfl
    · rw [if_neg inTime, if_neg inTime]

/-! ### Verifying -/

theorem verify_issueClaims (secret : String) (now : Nat) {c : Claims} (natural : 0 ≤ c.exp)
    (high : c.exp < Decimal.twoTo 63) :
    verify secret now (issueClaims secret c) =
      if now ≤ c.exp then c.identity else .error .tokenExpired := by
  rw [verify, verifyClaims_issueClaims secret now (by omega) high, if_neg (by omega)]
  by_cases inTime : now ≤ c.exp
  · rw [if_pos inTime, if_pos inTime]
  · rw [if_neg inTime, if_neg inTime]
    rfl

theorem verify_negative (secret : String) (now : Nat) {c : Claims} (negative : c.exp < 0)
    (low : -(Decimal.twoTo 63 : Int) ≤ c.exp) :
    verify secret now (issueClaims secret c) =
      .error (.invalidToken (TokenFault.missingClaim "exp").message) := by
  rw [verify, verifyClaims_issueClaims secret now low (by omega), if_pos negative]
  rfl

theorem verify_forged {secret other : String} {c : Claims}
    (differs : Digest.hmacSha256 (Utf8.ofText other) (Utf8.encode (signedText c)) ≠
      Digest.hmacSha256 (Utf8.ofText secret) (Utf8.encode (signedText c))) (now : Nat) :
    verify other now (issueClaims secret c) =
      .error (.invalidToken TokenFault.signature.message) := by
  have forged : signatureOf secret (signedText c) ≠ signatureOf other (signedText c) :=
    fun same => differs (Base64.encode_injective same).symm
  rw [verify, verifyClaims, signedPart_issueClaims, if_neg forged]
  rfl

/-- For every secret:

* A token issued to an identity at the time `issued` for the time `ttl`, with an instant as its end,
  is verified at `now` as exactly that identity up to and including its last second; later it has
  expired, and with a last second before 1970 it is invalid.
* A token for any claims with a last second from 1970 on is verified as what these claims describe,
  up to and including that second.
* Under a secret that signs the text of the claims in another way the token is never valid. -/
theorem issued_tokens_verify (secret : String) :
    (∀ (i : Identity) (issued ttl : Int), ttl.natAbs ≤ maxSpan * 1000000 →
      ∀ exp : Int, exp = (issued + ttl).fdiv 1000000000 →
        Calendar.firstSecond ≤ exp → exp ≤ Calendar.lastSecond →
        ∃ token, issueLasting? secret i issued ttl = some token ∧
          token = issueClaims secret (.ofIdentity i exp) ∧
          ∀ now : Nat, (verify secret now token = .ok i ↔ 0 ≤ exp ∧ now ≤ exp) ∧
            (verify secret now token = .error .tokenExpired ↔ 0 ≤ exp ∧ exp < now) ∧
            ((∃ reason, verify secret now token = .error (.invalidToken reason)) ↔ exp < 0)) ∧
      (∀ c : Claims, 0 ≤ c.exp → c.exp < Decimal.twoTo 63 → ∀ now : Nat,
        verify secret now (issueClaims secret c) =
          if now ≤ c.exp then c.identity else .error .tokenExpired) ∧
      ∀ (c : Claims) (other : String),
        Digest.hmacSha256 (Utf8.ofText other) (Utf8.encode (signedText c)) ≠
          Digest.hmacSha256 (Utf8.ofText secret) (Utf8.encode (signedText c)) →
        ∀ now : Nat, ∃ reason,
          verify other now (issueClaims secret c) = .error (.invalidToken reason) := by
  refine ⟨fun i issued ttl span exp ends first last => ?_,
    fun c natural high now => verify_issueClaims secret now natural high,
    fun c other differs now => ⟨_, verify_forged differs now⟩⟩
  refine ⟨issueClaims secret (.ofIdentity i exp), ?_, rfl, fun now => ?_⟩
  · rw [issueLasting?, ← ends]
    exact if_pos ⟨span, first, last⟩
  have widest : Calendar.lastSecond < Decimal.twoTo 63 ∧
      -(Decimal.twoTo 63 : Int) ≤ Calendar.firstSecond := by decide
  by_cases negative : exp < 0
  · have invalid := verify_negative secret now (c := .ofIdentity i exp) negative
      (Int.le_trans widest.2 first)
    rw [invalid]
    exact ⟨⟨nofun, fun h => by omega⟩, ⟨nofun, fun h => by omega⟩, fun _ => negative,
      fun _ => ⟨_, rfl⟩⟩
  · have valid := verify_issueClaims secret now (c := .ofIdentity i exp) (by omega : 0 ≤ exp)
      (Int.lt_of_le_of_lt last widest.1)
    rw [identity_ofIdentity] at valid
    rw [valid]
    by_cases inTime : now ≤ exp
    · rw [if_pos (show (now : Int) ≤ (Claims.ofIdentity i exp).exp from inTime)]
      exact ⟨⟨fun _ => ⟨by omega, inTime⟩, fun _ => rfl⟩, ⟨nofun, fun h => by omega⟩,
        nofun, fun h => by omega⟩
    · rw [if_neg (show ¬(now : Int) ≤ (Claims.ofIdentity i exp).exp from inTime)]
      exact ⟨⟨nofun, fun h => by omega⟩, ⟨fun _ => by omega, fun _ => rfl⟩, nofun,
        fun h => by omega⟩

/-- A token of an administrator whose name needs escapes, issued for a second at the start of 1970, a
token of the greatest last second, and a token under another secret. -/
theorem issued_tokens_verify_sample :
    (∃ token, issueLasting? "s" ⟨⟨"u", by decide⟩, ⟨"\"\n\u00e9", by decide⟩, .admin⟩ 0 1000000000 =
        some token ∧
      verify "s" 1 token = .ok ⟨⟨"u", by decide⟩, ⟨"\"\n\u00e9", by decide⟩, .admin⟩ ∧
      verify "s" 2 token = .error .tokenExpired) ∧
    verify "s" 0 (issueClaims "s" ⟨"u", none, none, 9223372036854775807⟩) =
      .ok ⟨⟨"u", by decide⟩, ⟨"u", by decide⟩, .member⟩ ∧
    ∃ reason, verify "t" 0 (issueClaims "s" ⟨"u", none, none, 1⟩) = .error (.invalidToken reason) := by
  refine ⟨?_, ?_, ?_⟩
  · obtain ⟨token, issued, -, verified⟩ := (issued_tokens_verify "s").1
      ⟨⟨"u", by decide⟩, ⟨"\"\n\u00e9", by decide⟩, .admin⟩ 0 1000000000 (by decide) 1 (by decide)
      (by decide) (by decide)
    exact ⟨token, issued, (verified 1).1.mpr (by decide), (verified 2).2.1.mpr (by decide)⟩
  · rw [(issued_tokens_verify "s").2.1 ⟨"u", none, none, 9223372036854775807⟩ (by decide) (by decide) 0,
      if_pos (by decide)]
    rfl
  · exact (issued_tokens_verify "s").2.2 ⟨"u", none, none, 1⟩ "t" (by decide +kernel) 0

end Token

end RoomHub
