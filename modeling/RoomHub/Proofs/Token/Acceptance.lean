import RoomHub.Proofs.Token.Issued
import RoomHub.Proofs.Token.Readings

/-!
# Which tokens are accepted

A text is accepted exactly if it is a header, claims and a signature of which each is right
(`Vouches`), and if the claims name a visible user; the identity is then the one that the claims
describe (`acceptance_exact`).  There is one signature for a header and claims, so no other text is
accepted in its place.
-/

namespace RoomHub

open Json Text

namespace Claims

theorem admin_roleOf_iff {role : Option String} :
    roleOf role = .admin ↔ ∃ r, role = some r ∧ sameAscii r "admin" = true := by
  cases role with
  | none => exact ⟨nofun, nofun⟩
  | some r =>
    simp only [roleOf]
    split_ifs with same
    · exact iff_of_true rfl ⟨r, rfl, same⟩
    · exact iff_of_false nofun fun ⟨r', found, same'⟩ => same (Option.some.inj found ▸ same')

/-- The name of a user without a visible name is the user id. -/
theorem text_displayName (username : Option String) (user : UserId) :
    ((username.bind fun n => (DisplayName.ofText n).toOption).getD (.ofUserId user)).text =
      (username.filter (!isBlankText ·)).getD user.text := by
  cases username with
  | none => rfl
  | some n =>
    rw [Option.bind_some, Option.filter_some, DisplayName.ofText]
    split_ifs with visible shown shown
    · rfl
    · exact absurd (Bool.not_eq_true' _ ▸ visible) shown
    · exact absurd (Bool.not_eq_true' _ ▸ shown) visible
    · rfl

theorem identity_eq_ok_iff {c : Claims} {i : Identity} :
    c.identity = .ok i ↔
      isBlankText c.userId = false ∧ i.userId.text = c.userId ∧
        i.displayName.text = (c.username.filter (!isBlankText ·)).getD c.userId ∧
        (i.role = .admin ↔ ∃ r, c.role = some r ∧ sameAscii r "admin" = true) := by
  rw [← admin_roleOf_iff]
  by_cases visible : isBlankText c.userId = false
  · have user : UserId.ofText c.userId = .ok ⟨c.userId, visible⟩ := dif_pos visible
    have name := text_displayName c.username ⟨c.userId, visible⟩
    rw [identity, user]
    dsimp only at name ⊢
    rw [← name]
    constructor
    · intro described
      cases described
      exact ⟨visible, rfl, rfl, Iff.rfl⟩
    · rintro ⟨-, sameUser, sameName, sameRole⟩
      obtain ⟨⟨_, _⟩, ⟨_, _⟩, role⟩ := i
      obtain rfl : role = roleOf c.role := by
        dsimp only at sameRole
        cases role <;> cases found : roleOf c.role <;> simp_all
      dsimp only at sameUser sameName
      subst sameUser
      subst sameName
      rfl
  · have user : UserId.ofText c.userId = .error .emptyUserId := dif_neg visible
    rw [identity, user]
    exact iff_of_false (by rintro ⟨⟩) fun h => visible h.1

end Claims

namespace Token

theorem checkRegistered_eq_ok_iff {now : Nat} {r : Registered} :
    checkRegistered now r = .ok () ↔
      (∃ exp, r.exp = .usable exp ∧ now ≤ exp) ∧ ∀ parties, r.aud ≠ .usable parties := by
  unfold checkRegistered
  cases r.exp with
  | usable exp =>
    dsimp only
    split_ifs with late
    · exact iff_of_false nofun fun ⟨⟨exp', same, inTime⟩, _⟩ => by
        cases same
        omega
    · have inTime : ∃ exp', Tried.usable exp = .usable exp' ∧ now ≤ exp' := ⟨exp, rfl, by omega⟩
      cases r.aud with
      | usable parties => exact iff_of_false nofun fun h => h.2 parties rfl
      | absent => exact iff_of_true rfl ⟨inTime, nofun⟩
      | unusable => exact iff_of_true rfl ⟨inTime, nofun⟩
  | absent => exact iff_of_false nofun fun ⟨⟨_, same, _⟩, _⟩ => nomatch same
  | unusable => exact iff_of_false nofun fun ⟨⟨_, same, _⟩, _⟩ => nomatch same

theorem usable_timeOf_iff {e : Int} {now : Nat} :
    (∃ exp, timeOf e = .usable exp ∧ now ≤ exp) ↔ 0 ≤ e ∧ now ≤ e := by
  unfold timeOf
  split_ifs with natural
  · constructor
    · rintro ⟨exp, same, inTime⟩
      cases same
      omega
    · exact fun h => ⟨e.toNat, rfl, by omega⟩
  · exact iff_of_false (fun ⟨_, same, _⟩ => nomatch same) fun h => natural h.1

/-- What the parts `h`, `p` and `s` of a token must be for it to stand for the claims `c` at the second
`now`: a header that names HS256, claims that last and name no audience, and the signature of both. -/
structure Vouches (secret : String) (now : Nat) (h p s : List Char) (c : Claims) : Prop where
  head : ∃ bytes, h = Base64.encode .url bytes ∧ Json.decode header.read bytes = .ok .hs256
  claims : ∃ bytes registered, p = Base64.encode .url bytes ∧
    Json.decode Claims.record.read bytes = .ok c ∧
    Json.decode Registered.record.read bytes = .ok registered ∧
    ∀ parties, registered.aud ≠ .usable parties
  lasts : 0 ≤ c.exp ∧ now ≤ c.exp
  signed : s = signatureOf secret (h ++ '.' :: p)

theorem verifyClaims_eq_ok_iff {secret : String} {now : Nat} {token : String} {c : Claims} :
    verifyClaims secret now token = .ok c ↔
      ∃ h p s, token.toList = h ++ '.' :: p ++ '.' :: s ∧ '.' ∉ p ∧ '.' ∉ s ∧
        Vouches secret now h p s c := by
  have text : Utf8.ofText token = Utf8.encode token.toList := rfl
  constructor
  · intro h
    obtain ⟨part, signed, h⟩ := Except.bind_eq_ok.mp h
    obtain ⟨bytes, decoded, h⟩ := Except.bind_eq_ok.mp h
    obtain ⟨claims, read, h⟩ := Except.bind_eq_ok.mp h
    obtain ⟨registered, read', h⟩ := Except.bind_eq_ok.mp h
    obtain ⟨⟨⟩, checked, h⟩ := Except.bind_eq_ok.mp h
    cases h
    rw [text, signedPart_eq_ok_iff] at signed
    obtain ⟨head, p, parts, noDot, named, rfl⟩ := signed
    rw [decodeJson_eq_ok_iff] at read read'
    obtain ⟨inTime, noAudience⟩ := checkRegistered_eq_ok_iff.mp checked
    rw [exp_of_readings read read', usable_timeOf_iff] at inTime
    exact ⟨_, p, _, parts, noDot, Base64.dot_not_mem_encode _, ⟨head, rfl, named⟩,
      ⟨bytes, registered, decodePart_eq_ok_iff.mp decoded, read, read', noAudience⟩, inTime, rfl⟩
  · rintro ⟨h, p, s, parts, noDot, -, ⟨head, rfl, named⟩,
      ⟨bytes, registered, rfl, read, read', noAudience⟩, inTime, rfl⟩
    have checked : checkRegistered now registered = .ok () := by
      rw [checkRegistered_eq_ok_iff, exp_of_readings read read', usable_timeOf_iff]
      exact ⟨inTime, noAudience⟩
    refine Except.bind_eq_ok.mpr ⟨_, ?_, Except.bind_eq_ok.mpr ⟨bytes, decodePart_eq_ok_iff.mpr rfl,
      Except.bind_eq_ok.mpr ⟨c, decodeJson_eq_ok_iff.mpr read, Except.bind_eq_ok.mpr
        ⟨registered, decodeJson_eq_ok_iff.mpr read', Except.bind_eq_ok.mpr ⟨(), checked, rfl⟩⟩⟩⟩⟩
    rw [text, signedPart_eq_ok_iff]
    exact ⟨head, _, parts, noDot, named, rfl⟩

theorem verify_eq_ok_iff {secret : String} {now : Nat} {token : String} {i : Identity} :
    verify secret now token = .ok i ↔
      ∃ c, verifyClaims secret now token = .ok c ∧ c.identity = .ok i := by
  unfold verify
  cases verifyClaims secret now token with
  | error fault => exact iff_of_false nofun fun ⟨_, found, _⟩ => nomatch found
  | ok c =>
    exact ⟨fun h => ⟨c, rfl, h⟩, fun ⟨c', same, h⟩ => by
      cases same
      exact h⟩

theorem append_dot_inj {before after before' after' : List Char}
    (same : before ++ '.' :: after = before' ++ '.' :: after') (noDot : '.' ∉ after)
    (noDot' : '.' ∉ after') : before = before' ∧ after = after' := by
  -- a dot of one text further on would be among the characters after the last one
  have only {between after after' : List Char} (same : '.' :: after = between ++ '.' :: after')
      (noDot : '.' ∉ after) : between = [] := by
    cases between with
    | nil => rfl
    | cons c between =>
      rw [(List.cons.inj same).2] at noDot
      exact absurd (List.mem_append_right between List.mem_cons_self) noDot
  obtain ⟨between, rfl, more⟩ | ⟨between, rfl, more⟩ := List.append_eq_append_iff.mp same
  · obtain rfl := only more noDot
    exact ⟨(List.append_nil before).symm, (List.cons.inj more).2⟩
  · obtain rfl := only more noDot'
    exact ⟨List.append_nil before', (List.cons.inj more).2.symm⟩

/-- Under every secret a token is accepted exactly if its parts vouch for claims that name a visible
user, and it stands for the identity that they describe.  For a header and claims there is one signature
that is ever accepted. -/
theorem acceptance_exact (secret : String) :
    (∀ (now : Nat) (token : String) (i : Identity),
      verify secret now token = .ok i ↔
        ∃ h p s c, token.toList = h ++ '.' :: p ++ '.' :: s ∧ '.' ∉ p ∧ '.' ∉ s ∧
          Vouches secret now h p s c ∧ isBlankText c.userId = false ∧
          i.userId.text = c.userId ∧
          i.displayName.text = (c.username.filter (!isBlankText ·)).getD c.userId ∧
          (i.role = .admin ↔ ∃ r, c.role = some r ∧ sameAscii r "admin" = true)) ∧
      ∀ h p s s' : List Char, '.' ∉ p → '.' ∉ s → '.' ∉ s' →
        (∃ now i, verify secret now (String.ofList (h ++ '.' :: p ++ '.' :: s)) = .ok i) →
        (∃ now i, verify secret now (String.ofList (h ++ '.' :: p ++ '.' :: s')) = .ok i) → s = s' := by
  constructor
  · intro now token i
    rw [verify_eq_ok_iff]
    constructor
    · rintro ⟨c, accepted, described⟩
      obtain ⟨h, p, s, parts, noDot, noDots, vouches⟩ := verifyClaims_eq_ok_iff.mp accepted
      exact ⟨h, p, s, c, parts, noDot, noDots, vouches, Claims.identity_eq_ok_iff.mp described⟩
    · rintro ⟨h, p, s, c, parts, noDot, noDots, vouches, described⟩
      exact ⟨c, verifyClaims_eq_ok_iff.mpr ⟨h, p, s, parts, noDot, noDots, vouches⟩,
        Claims.identity_eq_ok_iff.mpr described⟩
  · intro h p s s' noDot noDots noDots' first second
    have signed {s : List Char} (noDots : '.' ∉ s)
        (accepted : ∃ now i, verify secret now (String.ofList (h ++ '.' :: p ++ '.' :: s)) = .ok i) :
        s = signatureOf secret (h ++ '.' :: p) := by
      obtain ⟨now, i, accepted⟩ := accepted
      obtain ⟨c, accepted, -⟩ := verify_eq_ok_iff.mp accepted
      obtain ⟨h', p', t, parts, noDot', noDots', vouches⟩ := verifyClaims_eq_ok_iff.mp accepted
      rw [String.toList_ofList] at parts
      obtain ⟨signed, rfl⟩ := append_dot_inj parts noDots noDots'
      obtain ⟨rfl, rfl⟩ := append_dot_inj signed noDot noDot'
      exact vouches.signed
    rw [signed noDots first, signed noDots' second]

/-- A token of an administrator whose name is blank, at its last second; it is the only one with its
first two parts. -/
theorem acceptance_exact_sample :
    let c : Claims := ⟨"u", some " ", some "ADMIN", 5⟩
    let h := encodePart issuedHeader.toList
    let p := encodePart c.write
    let s := signatureOf "s" (h ++ '.' :: p)
    verify "s" 5 (String.ofList (h ++ '.' :: p ++ '.' :: s)) =
        .ok ⟨⟨"u", by decide⟩, ⟨"u", by decide⟩, .admin⟩ ∧
      ∀ s' : List Char, '.' ∉ s' →
        (∃ now i, verify "s" now (String.ofList (h ++ '.' :: p ++ '.' :: s')) = .ok i) → s' = s := by
  intro c h p s
  have noDot : '.' ∉ p := Base64.dot_not_mem_encode _
  have noDots : '.' ∉ s := Base64.dot_not_mem_encode _
  have vouches : Vouches "s" 5 h p s c :=
    { head := ⟨_, rfl, decode_issuedHeader⟩
      claims := ⟨_, _, rfl, Json.decode_encode (Claims.reads_claims (by decide) (by decide)),
        Json.decode_encode (reads_registered (by decide) (by decide)), nofun⟩
      lasts := by decide
      signed := rfl }
  have accepted : verify "s" 5 (String.ofList (h ++ '.' :: p ++ '.' :: s)) =
      .ok ⟨⟨"u", by decide⟩, ⟨"u", by decide⟩, .admin⟩ :=
    ((acceptance_exact "s").1 ..).mpr ⟨h, p, s, c, String.toList_ofList, noDot, noDots, vouches,
      by decide, rfl, by decide, iff_of_true rfl ⟨"ADMIN", rfl, by decide⟩⟩
  exact ⟨accepted, fun s' noDots' other =>
    (acceptance_exact "s").2 h p s' s noDot noDots' noDots other ⟨5, _, accepted⟩⟩

end Token

end RoomHub
