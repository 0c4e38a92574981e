import RoomHub.Proofs.Json.Landing.Values
import RoomHub.Proofs.Token.Claims

/-!
# Two readings of one text

The claims of a token are read twice: as `Claims`, whose reader passes over what it does not know and
refuses what has the wrong form, and as registered claims, whose reader goes on wherever the reader of
an unusable claim stopped.  That may be in the middle of a value.  But then the second reading does not
reach the end of the text (`not_inside`, `eq_outside`): it ends inside a bracket or a text that the
first reading has found to be closed.  So both readings see the same members, and the last second that
the second one finds is that of the claims (`exp_of_readings`).
-/

namespace RoomHub.Token

open Json Byte Spot

variable {d : Nat} {bytes rest : List UInt8}

/-- Only the closing bracket of an object is left. -/
def Ends (rest : List UInt8) : Prop :=
  ∃ blanks, endObject rest = .ok blanks ∧ skipBlanks blanks = []

theorem goes_of_ends (ends : Ends rest) : (outside (d + 1)).Goes rest (outside d) [] := by
  obtain ⟨blanks, closed, none⟩ := ends
  have lands := closing_endObject.lands d rest
  rw [closed] at lands
  exact Goes.trans lands (none ▸ goes_blanks blanks)

/-! ### Registered claims land or stray -/

theorem strays_tryRead {α : Type} {read : Reader (Tried α)} {a : Tried α}
    (lands : Lands (outside d) (outside d) bytes (stop (read bytes)))
    (h : tryRead read bytes = .ok (a, rest)) : (outside d).Strays d bytes rest := by
  unfold tryRead at h
  split at h
  next p read =>
    cases h
    exact (lands.goes read).strays (Nat.le_refl d)
  next f failed =>
    cases h
    exact lands.strays failed

theorem lands_readTime (bytes : List UInt8) :
    Lands (outside d) (outside d) bytes (stop (readTime bytes)) := by
  have blanks := goes_blanks (d := d) bytes
  unfold readTime
  cases ahead : skipBlanks bytes with
  | nil =>
    rw [ahead] at blanks
    exact blanks.strays (Nat.le_refl d)
  | cons b tail =>
    rw [ahead] at blanks
    refine Lands.after ?_ blanks
    simp only
    split_ifs with isMinus digits isArray isObject
    · subst isMinus
      exact ((lands_signed false tail).after (goes_step rfl)).map fun _ => rfl
    · refine (lands_digits true digits tail).map fun p => ?_
      split <;> rfl
    · subst isArray
      exact lands_map_const.mpr ((closing_endArray.lands d tail).after (goes_step rfl))
    · subst isObject
      exact lands_map_const.mpr ((closing_endObject.lands d tail).after (goes_step rfl))
    · exact strays_mismatch _ _

theorem lands_readSubject (bytes : List UInt8) :
    Lands (outside d) (outside d) bytes (stop (readSubject bytes)) :=
  (lands_readOptional (lands_readTextAs _ _) bytes).map fun _ => rfl

theorem lands_readParties (bytes : List UInt8) :
    Lands (outside d) (outside d) bytes (stop (readParties bytes)) :=
  (lands_readOptional (lands_readAny _ d) bytes).map fun _ => rfl

namespace Registered

/-- The value of a registered claim, wherever its reader stops. -/
theorem strays_field {field : Json.Field Fields} (known : field ∈ record.fields) {s t : Fields}
    (h : field.read s bytes = .ok (t, rest)) : (outside d).Strays d bytes rest := by
  simp only [record, List.mem_cons, List.not_mem_nil, or_false] at known
  obtain rfl | rfl | rfl | rfl | rfl := known <;>
    obtain ⟨a, tried, -⟩ := field_of_read.mp h
  · exact strays_tryRead (lands_readTime bytes) tried
  · exact strays_tryRead (lands_readTime bytes) tried
  · exact strays_tryRead (lands_readSubject bytes) tried
  · exact strays_tryRead (lands_readParties bytes) tried
  · exact strays_tryRead (lands_readParties bytes) tried

theorem strays_readMember {name : String} {s t : Fields}
    (h : record.readMember name s bytes = .ok (t, rest)) : (outside d).Strays d bytes rest := by
  obtain ⟨value, colon, ⟨field, known, -, read⟩ | ⟨-, passed, -⟩⟩ := readMember_cases h
  · exact (strays_field known read).after (goes_readColon colon)
  · exact ((goes_readColon colon).trans (goes_skipValue passed)).strays (Nat.le_refl d)

/-! ### The end of the second reading -/

/-- The content of a text that is read inside out is what stands there. -/
theorem scan_content {content : List UInt8} {s t : Spot} (isOpen : s.mode.isOpen = true)
    (read : readBytes bytes = .ok (content, rest)) (scanned : s.scan bytes = .ok t) :
    ∃ u, s.scan content = .ok u := by
  fun_induction readBytes bytes generalizing s content with
  | case1 => cases read
  | case2 =>
    cases read
    exact ⟨s, rfl⟩
  | case3 => cases read
  | case4 => cases read
  | case5 tail c more escape content' left found noQuote ih =>
    -- there are no escapes here
    rw [Spot.scan] at scanned
    split at scanned
    next => cases scanned
    next u first =>
      obtain ⟨same, -⟩ | ⟨-, other, -⟩ := Mode.next_of_isOpen isOpen (step_eq_ok_iff.mp first).1
      · exact absurd same noQuote
      · exact absurd rfl other
  | case6 => cases read
  | case7 => cases read
  | case8 b tail noQuote noBackslash noControl content' left found ih =>
    cases read
    rw [Spot.scan] at scanned
    split at scanned
    next => cases scanned
    next u first =>
      obtain ⟨same, -⟩ | ⟨-, -, still⟩ := Mode.next_of_isOpen isOpen (step_eq_ok_iff.mp first).1
      · exact absurd same noQuote
      · obtain ⟨v, scanned⟩ := ih still found scanned
        exact ⟨v, (scan_cons_of_step first).trans scanned⟩

/-- The names of registered claims are no values. -/
theorem scan_name {field : Json.Field Fields} (known : field ∈ record.fields) (d : Nat) :
    (outside d).scan (Text.Utf8.ofText field.name) = .error .junk := by
  simp only [record, List.mem_cons, List.not_mem_nil, or_false] at known
  obtain rfl | rfl | rfl | rfl | rfl := known <;> rfl

/-- A text that is read inside out is not the name of a registered claim. -/
theorem unknown_of_flipped {name : String} {t : Spot} (read : readText bytes = .ok (name, rest))
    (scanned : (outside d).scan bytes = .ok t) : ∀ field ∈ record.fields, field.name ≠ name := by
  rintro field known rfl
  unfold readText at read
  split at read
  next => cases read
  next content more found =>
    split at read
    next cs decoded =>
      have named : Text.Utf8.ofText field.name = content := by
        have same : String.ofList cs = field.name := congrArg Prod.fst (Except.ok.inj read)
        rw [← same, Text.Utf8.eq_encode_of_decode decoded]
        exact congrArg Text.Utf8.encode String.toList_ofList
      obtain ⟨u, leads⟩ := scan_content rfl found scanned
      rw [← named, scan_name known d] at leads
      cases leads
    next => cases read

/-- A reader of members that has strayed into a text does not reach the end: what it takes for texts
lies between the texts, so it closes its object inside one of them. -/
theorem not_inside {fuel : Nat} {s t : Fields} {real : Spot}
    (members : readMembers record.readMember fuel false s bytes = .ok (t, rest)) (ends : Ends rest)
    (isText : real.mode = .text) (scanned : real.scan bytes = .ok (outside 0)) : False := by
  induction fuel generalizing bytes s real with
  | zero => cases members
  | succ fuel ih =>
    have flipped : Mode.Flipped .outside real.mode := .inr ⟨rfl, isText⟩
    obtain ⟨closed, -, -⟩ | ⟨_, start, name, more, next, behind, same, found, named, read, members⟩ :=
      readMembers_cases members
    · have goes : (outside 1).Goes bytes (outside 0) [] := by
        refine (goes_blanks bytes).trans ?_
        rw [closed]
        exact goes_of_ends ends
      obtain ⟨last, flipped, same⟩ := goes.flipped flipped scanned
      cases same
      exact nomatch flipped.eq_text
    · cases same
      have opens := goes_of_nextName (d := 0) found
      obtain ⟨⟨_, k⟩, flipped', isName⟩ := opens.flipped flipped scanned
      obtain rfl := flipped'.eq_text
      rw [scan_cons_of_step (t := outside k) rfl] at isName
      obtain ⟨value, colon, ⟨field, known, same, -⟩ | ⟨-, passed, -⟩⟩ := readMember_cases read
      · exact unknown_of_flipped named isName field known same
      have goes := ((opens.trans (goes_step (t := inside 1) rfl)).trans ((lands_readText start).goes named)).trans
        ((goes_readColon colon).trans (goes_skipValue passed))
      obtain ⟨later, flipped, scanned⟩ := goes.flipped flipped scanned
      exact ih members flipped.eq_text scanned

/-- A reader of members that has strayed anywhere reaches the end only from where it should be. -/
theorem eq_outside {fuel : Nat} {s t : Fields} {real : Spot}
    (members : readMembers record.readMember fuel false s bytes = .ok (t, rest)) (ends : Ends rest)
    (enough : 1 ≤ real.depth) (scanned : real.scan bytes = .ok (outside 0)) : real = outside 1 := by
  induction fuel generalizing bytes s real with
  | zero => cases members
  | succ fuel ih =>
    obtain ⟨b, tail, ahead, separates⟩ := separator_of_readMembers members
    obtain ⟨mode, depth⟩ := real
    obtain ⟨k, rfl⟩ := Nat.exists_eq_add_of_le' enough
    obtain rfl | isText : mode = .outside ∨ mode = .text :=
      Spot.eq_of_separator ahead separates scanned
    · obtain ⟨closed, -, -⟩ | ⟨_, start, name, more, next, behind, same, found, named, read, members⟩ :=
        readMembers_cases members
      · have goes : (outside (k + 1)).Goes bytes (outside k) [] := by
          refine (goes_blanks bytes).trans ?_
          rw [closed]
          exact goes_of_ends ends
        rw [goes.scan] at scanned
        cases scanned
        rfl
      · cases same
        have goes := ((goes_of_nextName (d := k) found).trans
          (goes_step (t := inside (k + 1)) rfl)).trans ((lands_readText start).goes named)
        obtain ⟨later, -, scanned, deeper⟩ := ((strays_readMember read).after goes).leads scanned
        have same := ih members (Nat.le_trans (Nat.le_add_left 1 k) deeper) scanned
        rw [same] at deeper
        obtain rfl : k = 0 := Nat.le_zero.mp (Nat.le_of_succ_le_succ deeper)
        rfl
    · exact (not_inside members ends isText scanned).elim

end Registered

/-! ### The last second -/

theorem natural_of_signed64 {n : Number} {e : Int} (read : readNumber true bytes = .ok (n, rest))
    (h : signed64 n = .ok e) : ∃ k : Nat, n = .natural k ∧ e = k := by
  obtain ⟨x, rfl⟩ | ⟨k, rfl⟩ := whole_of_readNumber read
  · cases h
  · have natural : wholeNumber true k = .natural k := rfl
    rw [natural, signed64] at h
    split_ifs at h
    cases h
    exact ⟨k, natural, rfl⟩

theorem neg_of_signed64 {n : Number} {e : Int} (read : readNumber false bytes = .ok (n, rest))
    (h : signed64 n = .ok e) : e < 0 := by
  obtain ⟨x, rfl⟩ | ⟨k, rfl⟩ := whole_of_readNumber read
  · cases h
  · unfold wholeNumber at h
    rw [if_neg Bool.false_ne_true] at h
    split_ifs at h with none
    · split at h <;> cases h
    · cases h
      omega

/-- What is a signed whole number to one reader is a point in time to the other. -/
theorem readTime_of_readSigned64 {e : Int} (h : readSigned64 bytes = .ok (e, rest)) :
    readTime bytes = .ok (timeOf e, rest) := by
  obtain ⟨b, tail, n, ahead, found, ⟨rfl, read⟩ | ⟨digits, read⟩⟩ := readNumberAs_cases h
  · rw [readTime, ahead, timeOf, if_neg (Int.not_le.mpr (neg_of_signed64 read found))]
    dsimp only
    rw [if_pos rfl, read]
    rfl
  · obtain ⟨k, rfl, rfl⟩ := natural_of_signed64 read found
    rw [readTime, ahead, timeOf, if_pos (Int.natCast_nonneg k)]
    dsimp only
    rw [if_neg (apart_of_isDigit digits rfl), if_pos digits, read]
    rfl

/-! ### Both readings member by member -/

theorem goes_readMember {name : String} {s t : Claims.Fields}
    (h : Claims.record.readMember name s bytes = .ok (t, rest)) :
    (outside d).Goes bytes (outside d) rest := by
  obtain ⟨value, colon, ⟨field, known, -, read⟩ | ⟨-, passed, -⟩⟩ := readMember_cases h
  · refine (goes_readColon colon).trans ?_
    have text (bytes : List UInt8) : Lands (outside d) (outside d) bytes (stop (readString bytes)) :=
      lands_readTextAs ..
    simp only [Claims.record, List.mem_cons, List.not_mem_nil, or_false] at known
    obtain rfl | rfl | rfl | rfl := known <;>
      obtain ⟨a, found, -⟩ := field_of_read.mp read
    · exact (text value).goes found
    · exact (lands_readOptional text value).goes found
    · exact (lands_readOptional text value).goes found
    · exact (lands_readNumberAs _ _ value).goes found
  · exact (goes_readColon colon).trans (goes_skipValue passed)

theorem goes_members {fuel : Nat} {first : Bool} {s t : Claims.Fields}
    (h : readMembers Claims.record.readMember fuel first s bytes = .ok (t, rest)) :
    (outside (d + 1)).Goes bytes (outside (d + 1)) rest := by
  induction fuel generalizing bytes first s with
  | zero => cases h
  | succ fuel ih =>
    obtain ⟨rfl, -⟩ | ⟨_, start, name, more, u, behind, one, found, named, read, h⟩ :=
      readMembers_cases h
    · exact goes_blanks bytes
    · cases one
      have goes := ((goes_of_nextName (d := d) found).trans
        (goes_step (t := inside (d + 1)) rfl)).trans ((lands_readText start).goes named)
      exact (goes.trans (goes_readMember read)).trans (ih h)

/-- Among the members of claims only `exp` sets the last second. -/
theorem exp_of_claims {name : String} {s t : Claims.Fields}
    (h : Claims.record.readMember name s bytes = .ok (t, rest)) :
    ∃ value, readColon bytes = .ok value ∧
      (name = "exp" ∧ (∃ e, readSigned64 value = .ok (e, rest) ∧ t.exp = some e) ∨
        name ≠ "exp" ∧ t.exp = s.exp) := by
  obtain ⟨value, colon, ⟨field, known, rfl, read⟩ | ⟨unknown, -, rfl⟩⟩ := readMember_cases h
  · refine ⟨value, colon, ?_⟩
    simp only [Claims.record, List.mem_cons, List.not_mem_nil, or_false] at known
    obtain rfl | rfl | rfl | rfl := known <;>
      obtain ⟨a, found, rfl⟩ := field_of_read.mp read
    · exact .inr ⟨by decide, rfl⟩
    · exact .inr ⟨by decide, rfl⟩
    · exact .inr ⟨by decide, rfl⟩
    · exact .inl ⟨rfl, a, found, rfl⟩
  · have other : "exp" ≠ name := unknown _ (.tail _ (.tail _ (.tail _ (.head _))))
    exact ⟨value, colon, .inr ⟨other.symm, rfl⟩⟩

/-- Among the registered claims only `exp` sets the last second. -/
theorem exp_of_registered {name : String} {s t : Registered.Fields}
    (h : Registered.record.readMember name s bytes = .ok (t, rest)) :
    ∃ value, readColon bytes = .ok value ∧
      (name = "exp" ∧ (∃ e, tryRead readTime value = .ok (e, rest) ∧ t.exp = some e) ∨
        name ≠ "exp" ∧ t.exp = s.exp) := by
  obtain ⟨value, colon, ⟨field, known, rfl, read⟩ | ⟨unknown, -, rfl⟩⟩ := readMember_cases h
  · refine ⟨value, colon, ?_⟩
    simp only [Registered.record, List.mem_cons, List.not_mem_nil, or_false] at known
    obtain rfl | rfl | rfl | rfl | rfl := known <;>
      obtain ⟨a, found, rfl⟩ := field_of_read.mp read
    · exact .inl ⟨rfl, a, found, rfl⟩
    · exact .inr ⟨by decide, rfl⟩
    · exact .inr ⟨by decide, rfl⟩
    · exact .inr ⟨by decide, rfl⟩
    · exact .inr ⟨by decide, rfl⟩
  · have other : "exp" ≠ name := unknown _ (.head _)
    exact ⟨value, colon, .inr ⟨other.symm, rfl⟩⟩

/-- One member that both readings see. -/
theorem exp_of_member {name : String} {s s' : Claims.Fields} {t t' : Registered.Fields}
    {p q : List UInt8} (claims : Claims.record.readMember name s bytes = .ok (s', p))
    (registered : Registered.record.readMember name t bytes = .ok (t', q))
    (agree : t.exp = s.exp.map timeOf) : t'.exp = s'.exp.map timeOf := by
  obtain ⟨value, colon, ⟨isExp, e, read, found⟩ | ⟨other, kept⟩⟩ := exp_of_claims claims
  all_goals obtain ⟨value', colon', ⟨isExp', e', read', found'⟩ | ⟨other', kept'⟩⟩ :=
    exp_of_registered registered
  · cases colon.symm.trans colon'
    rw [tryRead, readTime_of_readSigned64 read] at read'
    cases read'
    rw [found, found']
    rfl
  · exact absurd isExp other'
  · exact absurd isExp' other
  · rw [kept, kept', agree]

/-- Both readings of the members see the same last second. -/
theorem exp_of_members {fuel : Nat} {first : Bool} {s s' : Claims.Fields} {t t' : Registered.Fields}
    {p q p' q' : List UInt8}
    (claims : readMembers Claims.record.readMember fuel first s p = .ok (s', q))
    (registered : readMembers Registered.record.readMember fuel first t p' = .ok (t', q'))
    (ends : Ends q') (same : skipBlanks p = skipBlanks p')
    (scanned : (outside 1).scan p' = .ok (outside 0)) (agree : t.exp = s.exp.map timeOf) :
    t'.exp = s'.exp.map timeOf := by
  induction fuel generalizing first s t p p' with
  | zero => cases claims
  | succ fuel ih =>
    have next : nextName first p = nextName first p' := by rw [nextName, nextName, same]
    obtain ⟨closed, ⟨_, isClosed⟩, rfl⟩ |
        ⟨_, start, name, more, s₁, behind, one, found, named, read, claims⟩ := readMembers_cases claims
    all_goals obtain ⟨closed', ⟨_, isClosed'⟩, rfl⟩ |
        ⟨_, start', name', more', t₁, behind', one', found', named', read', registered⟩ :=
      readMembers_cases registered
    · exact agree
    · have none := (nextName_eq_none first).mpr ⟨_, closed.trans isClosed⟩
      cases (none.symm.trans next).trans found'
    · have none := (nextName_eq_none first).mpr ⟨_, closed'.trans isClosed'⟩
      cases (none.symm.trans next.symm).trans found
    · cases one
      cases one'
      cases (found.symm.trans next).trans found'
      cases named.symm.trans named'
      -- both readings are at the value of one member
      have goes := ((goes_of_nextName (d := 0) found').trans
        (goes_step (t := inside 1) rfl)).trans ((lands_readText start).goes named)
      rw [goes.scan] at scanned
      obtain ⟨real, goes', scanned, enough⟩ :=
        (Registered.strays_readMember (d := 1) read').leads scanned
      obtain rfl := Registered.eq_outside registered ends enough scanned
      have lower : (outside 0).Goes more (outside 0) behind' :=
        (Registered.strays_readMember (d := 0) read').lower goes'
      obtain ⟨b, tail, ahead, separates⟩ := separator_of_readMembers claims
      obtain ⟨b', tail', ahead', separates'⟩ := separator_of_readMembers registered
      have same := (goes_readMember read).skipBlanks_eq lower ahead separates ahead' separates'
      exact ih claims registered same scanned (exp_of_member read read' agree)

/-! ### Arrays -/

/-- Claims in an array are all there, for the last of them is required. -/
theorem items_of_claims {s t : Claims.Fields}
    (h : Claims.record.readFields Claims.record.fields 0 true s bytes = .ok (t, rest)) :
    ∃ user p₁ name p₂ role p₃ exp x y z e,
      nextItem true bytes = .ok (some user) ∧ readString user = .ok (x, p₁) ∧
      nextItem false p₁ = .ok (some name) ∧ readOptional readString name = .ok (y, p₂) ∧
      nextItem false p₂ = .ok (some role) ∧ readOptional readString role = .ok (z, p₃) ∧
      nextItem false p₃ = .ok (some exp) ∧ readSigned64 exp = .ok (e, rest) := by
  obtain ⟨-, required, -⟩ | ⟨user, _, p₁, first, read, h⟩ := readFields_cases h
  · cases required
  obtain ⟨x, text, -⟩ := field_of_read.mp read
  obtain ⟨none, -, h⟩ | ⟨name, _, p₂, second, read, h⟩ := readFields_cases h
  · obtain ⟨-, -, h⟩ | ⟨_, _, _, third, -⟩ := readFields_cases h
    · obtain ⟨-, required, -⟩ | ⟨_, _, _, last, -⟩ := readFields_cases h
      · cases required
      · cases none.symm.trans last
    · cases none.symm.trans third
  obtain ⟨y, text', -⟩ := field_of_read.mp read
  obtain ⟨none, -, h⟩ | ⟨role, _, p₃, third, read, h⟩ := readFields_cases h
  · obtain ⟨-, required, -⟩ | ⟨_, _, _, last, -⟩ := readFields_cases h
    · cases required
    · cases none.symm.trans last
  obtain ⟨z, text'', -⟩ := field_of_read.mp read
  obtain ⟨-, required, -⟩ | ⟨exp, _, p₄, last, read, h⟩ := readFields_cases h
  · cases required
  obtain ⟨e, number, -⟩ := field_of_read.mp read
  cases h
  exact ⟨user, p₁, name, p₂, role, p₃, exp, x, y, z, e, first, text, second, text', third, text'',
    last, number⟩

theorem tryTime_of_text {tail : List UInt8} {s : String} (ahead : skipBlanks bytes = quote :: tail)
    (read : readText tail = .ok (s, rest)) : tryRead readTime bytes = .ok (.unusable, rest) := by
  have time : readTime bytes = .error (mismatch "a number" (quote :: tail)) := by
    rw [readTime, ahead]
    rfl
  have other : mismatch "a number" (quote :: tail) =
      .here (.wrongType (.text s) "a number") rest := by
    simp only [mismatch, read]
    rfl
  rw [tryRead, time, other]
  rfl

theorem tryTime_of_null {tail : List UInt8} (ahead : skipBlanks bytes = letterN :: tail)
    (read : readWord nullTail tail = .ok rest) : tryRead readTime bytes = .ok (.unusable, rest) := by
  have time : readTime bytes = .error (mismatch "a number" (letterN :: tail)) := by
    rw [readTime, ahead]
    rfl
  have other : mismatch "a number" (letterN :: tail) = .here (.wrongType .null "a number") rest := by
    simp only [mismatch, read]
    rfl
  rw [tryRead, time, other]
  rfl

/-- A text or `null` is no point in time, but it is read to its end. -/
theorem tryTime_of_optional {s : Option String} (h : readOptional readString bytes = .ok (s, rest)) :
    tryRead readTime bytes = .ok (.unusable, rest) := by
  obtain ⟨tail, ahead, read, -⟩ | ⟨s, text, -⟩ := readOptional_cases h
  · exact tryTime_of_null ahead read
  · obtain ⟨tail, s, ahead, read, -⟩ := readTextAs_cases text
    rw [skipBlanks_skipBlanks] at ahead
    exact tryTime_of_text ahead read

theorem trySubject_of_optional {s : Option String}
    (h : readOptional readString bytes = .ok (s, rest)) :
    ∃ a, tryRead readSubject bytes = .ok (a, rest) := by
  rw [tryRead, readSubject, h]
  exact ⟨_, rfl⟩

/-- A number names no parties, but it is read to its end. -/
theorem tryParties_of_number {e : Int} (h : readSigned64 bytes = .ok (e, rest)) :
    ∃ a, tryRead readParties bytes = .ok (a, rest) := by
  obtain ⟨b, tail, n, ahead, -, number⟩ := readNumberAs_cases h
  have visible : skipBlanks (b :: tail) = b :: tail := by rw [← ahead, skipBlanks_skipBlanks]
  have read : readAny (maxDepth - 1) (b :: tail) = .ok (.number n, rest) ∧ b ≠ letterN := by
    rw [readAny, visible]
    obtain ⟨rfl, read⟩ | ⟨digits, read⟩ := number
    · refine ⟨?_, by decide⟩
      show (readNumber false tail).map _ = _
      rw [read]
      rfl
    · have other {c : UInt8} (h : isDigit c = false) : b ≠ c := apart_of_isDigit digits h
      refine ⟨?_, other rfl⟩
      dsimp only
      rw [if_neg (other rfl), if_neg (other rfl), if_neg (other rfl), if_neg (other rfl),
        if_pos digits, read]
      rfl
  rw [tryRead, readParties, readOptional, ahead]
  dsimp only
  rw [if_neg read.2, read.1]
  exact ⟨_, rfl⟩

/-- Claims in an array are no registered claims: the array is too short for them. -/
theorem no_items_of_registered {s t : Claims.Fields} {u v : Registered.Fields} {p q end_ : List UInt8}
    (claims : Claims.record.readFields Claims.record.fields 0 true s bytes = .ok (t, p))
    (closed : endArray p = .ok end_) :
    Registered.record.readFields Registered.record.fields 0 true u bytes ≠ .ok (v, q) := by
  intro h
  obtain ⟨user, p₁, name, p₂, role, p₃, exp, x, y, z, e, first, text, second, text', third, text'',
    last, number⟩ := items_of_claims claims
  -- the first four items are read as `exp`, `nbf`, `sub` and `iss`
  obtain ⟨none, -⟩ | ⟨_, _, _, found, read, h⟩ := readFields_cases h
  · cases none.symm.trans first
  cases found.symm.trans first
  obtain ⟨_, read, -⟩ := field_of_read.mp read
  obtain ⟨tail, s, ahead, isText, -⟩ := readTextAs_cases text
  cases read.symm.trans (tryTime_of_text ahead isText)
  obtain ⟨none, -⟩ | ⟨_, _, _, found, read, h⟩ := readFields_cases h
  · cases none.symm.trans second
  cases found.symm.trans second
  obtain ⟨_, read, -⟩ := field_of_read.mp read
  cases read.symm.trans (tryTime_of_optional text')
  obtain ⟨none, -⟩ | ⟨_, _, _, found, read, h⟩ := readFields_cases h
  · cases none.symm.trans third
  cases found.symm.trans third
  obtain ⟨_, read, -⟩ := field_of_read.mp read
  obtain ⟨_, subject⟩ := trySubject_of_optional text''
  cases read.symm.trans subject
  obtain ⟨none, -⟩ | ⟨_, _, _, found, read, h⟩ := readFields_cases h
  · cases none.symm.trans last
  cases found.symm.trans last
  obtain ⟨_, read, -⟩ := field_of_read.mp read
  obtain ⟨_, parties⟩ := tryParties_of_number number
  cases read.symm.trans parties
  -- there is no fifth one for `aud`
  have none := nextItem_of_endArray closed false
  obtain ⟨-, required, -⟩ | ⟨_, _, _, found, -⟩ := readFields_cases h
  · cases required
  · cases none.symm.trans found

/-! ### Whole texts -/

theorem exp_of_finish {s : Claims.Fields} {c : Claims} (h : Claims.record.finish s = .ok c) :
    s.exp = some c.exp := by
  obtain ⟨userId, -, h⟩ := Except.bind_eq_ok.mp h
  obtain ⟨exp, found, h⟩ := Except.bind_eq_ok.mp h
  cases h
  unfold required at found
  split at found
  next e given =>
    cases found
    exact given
  next => cases found

/-- If a text can be read as claims and as registered claims, both have the same last second. -/
theorem exp_of_readings {c : Claims} {r : Registered} (claims : Json.decode Claims.record.read bytes = .ok c)
    (registered : Json.decode Registered.record.read bytes = .ok r) : r.exp = timeOf c.exp := by
  obtain ⟨end_, claims, blanks⟩ := decode_eq_ok_iff.mp claims
  obtain ⟨end', registered, blanks'⟩ := decode_eq_ok_iff.mp registered
  obtain ⟨s, p, tail, finished, ⟨opens, items, closes⟩ | ⟨opens, members, closes⟩⟩ := read_cases claims
  all_goals obtain ⟨t, q, tail', finished', ⟨opens', items', closes'⟩ | ⟨opens', members', closes'⟩⟩ :=
    read_cases registered
  · cases opens.symm.trans opens'
    exact absurd items' (no_items_of_registered items closes)
  · cases opens.symm.trans opens'
  · cases opens.symm.trans opens'
  · cases opens.symm.trans opens'
    have scanned : (outside 1).scan tail = .ok (outside 0) :=
      ((goes_members members).trans (goes_of_ends ⟨end_, closes, blanks⟩)).scan
    have agree := exp_of_members members members' ⟨end', closes', blanks'⟩ rfl scanned rfl
    cases finished'
    rw [agree, exp_of_finish finished]
    rfl

end RoomHub.Token
