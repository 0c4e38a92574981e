import RoomHub.Proofs.Json.Spelled

/-!
# What readers make of whatever is well formed

`Understands read meaning`: on a value that is written in any way the reader gives what `meaning` makes
of the value, or nothing.  A reader of members goes through them one after the other
(`readMembers_spelled`), and so does a record (`read_spelled`).
-/

namespace RoomHub.Json

open Byte Text

variable {α : Type} {v : Datum} {bytes text rest blanks : List UInt8}

/-- The reader gives what the meaning of a value is, if it has one, and goes on behind it. -/
def Understands (read : Reader α) (meaning : Datum → Option α) : Prop :=
  ∀ {v : Datum} {text blanks rest : List UInt8}, Spells (.value v) text → Blank blanks →
    Follows rest → (read (blanks ++ (text ++ rest))).toOption = (meaning v).map (·, rest)

/-- Such a reader fails on what means nothing, and otherwise stops behind it. -/
theorem understood_cases {result : Except Fault (α × List UInt8)} {x : Option α}
    (understood : result.toOption = x.map (·, rest)) :
    (∃ f, result = .error f ∧ x = none) ∨ ∃ a, result = .ok (a, rest) ∧ x = some a := by
  cases result with
  | error f => exact .inl ⟨f, rfl, Option.map_eq_none_iff.mp understood.symm⟩
  | ok p =>
    obtain ⟨a, means, rfl⟩ := Option.map_eq_some_iff.mp understood.symm
    exact .inr ⟨a, rfl, means⟩

/-! ### Texts -/

/-- The text that a value is. -/
def Datum.text? : Datum → Option String
  | .text s => some s
  | _ => none

theorem Datum.eq_of_text? {s : String} (said : v.text? = some s) : v = .text s := by
  cases v with
  | text => exact congrArg Datum.text (Option.some.inj said)
  | _ => cases said

theorem quote_of_opens (opens : v.Opens quote) : ∃ s, v = .text s := by
  cases v with
  | text s => exact ⟨s, rfl⟩
  | flag x => cases x <;> cases opens
  | number => exact absurd rfl (ne_of_opens_number opens (by decide) rfl)
  | _ => cases opens

section Texts

variable {expected : String} {visit : String → Except Cause α}

theorem readTextAs_spelled {s : String} (blank : Blank blanks) (named : SpellsChars s.toList text)
    (rest : List UInt8) :
    readTextAs expected visit (blanks ++ quote :: (text ++ quote :: rest)) =
      ((visit s).map (·, rest)).mapError (Fault.here · rest) := by
  rw [readTextAs, skipBlanks_append blank, skipBlanks_cons rfl]
  dsimp only
  rw [if_pos rfl, readText_spelled named]
  dsimp only
  cases visit s <;> rfl

theorem readTextAs_of_ne {b : UInt8} {tail : List UInt8} (ahead : skipBlanks bytes = b :: tail)
    (other : b ≠ quote) : readTextAs expected visit bytes = .error (mismatch expected (b :: tail)) := by
  rw [readTextAs, ahead]
  exact if_neg other

theorem understands_textAs (expected : String) (visit : String → Except Cause α) :
    Understands (readTextAs expected visit) fun v => v.text?.bind fun s => (visit s).toOption := by
  intro v text blanks rest spelled blank follows
  dsimp only
  cases said : v.text? with
  | some s =>
    obtain rfl := Datum.eq_of_text? said
    cases spelled with
    | text named =>
      rw [List.cons_append, List.append_assoc, List.singleton_append, readTextAs_spelled blank named,
        Option.bind_some]
      cases visit s <;> rfl
  | none =>
    obtain ⟨b, tail, rfl, opens⟩ := opens_of_spells spelled
    have other : b ≠ quote := by
      rintro rfl
      obtain ⟨s, rfl⟩ := quote_of_opens opens
      cases said
    rw [readTextAs_of_ne (skipBlanks_spelled spelled blank rest) other]
    rfl

end Texts

theorem understands_string : Understands readString Datum.text? := by
  intro v text blanks rest spelled blank follows
  rw [readString, understands_textAs "a string" .ok spelled blank follows]
  dsimp only
  cases v.text? <;> rfl

/-! ### Choices -/

/-- The name that a value chooses: a text, or the only name of an object with nothing under it. -/
def Datum.choice? : Datum → Option String
  | .text s => some s
  | .object [(s, .null)] => some s
  | _ => none

theorem readNull_spelled (spelled : Spells (.value v) text) (blank : Blank blanks)
    (rest : List UInt8) :
    v = .null ∧ readNull (blanks ++ (text ++ rest)) = .ok rest ∨
      v ≠ .null ∧ ∃ f, readNull (blanks ++ (text ++ rest)) = .error f := by
  rw [readNull, skipBlanks_spelled spelled blank]
  by_cases isNull : v = .null
  · subst isNull
    cases spelled with
    | null => exact .inl ⟨rfl, rfl⟩
  · obtain ⟨b, tail, rfl, opens⟩ := opens_of_spells spelled
    have noNull : b ≠ letterN := by
      rintro rfl
      cases v with
      | null => exact isNull rfl
      | flag x => cases x <;> cases opens
      | number => exact absurd rfl (ne_of_opens_number opens (by decide) rfl)
      | _ => cases opens
    exact .inr ⟨isNull, _, if_neg noNull⟩

theorem Datum.choice?_eq_some {name : String} :
    v.choice? = some name ↔ v = .text name ∨ v = .object [(name, .null)] := by
  constructor
  · intro chosen
    unfold Datum.choice? at chosen
    split at chosen
    · cases chosen
      exact .inl rfl
    · cases chosen
      exact .inr rfl
    · cases chosen
  · rintro (rfl | rfl) <;> rfl

theorem Datum.choice?_of_ne_null (name : String) (other : v ≠ .null)
    (members : List (String × Datum)) : (Datum.object ((name, v) :: members)).choice? = none := by
  cases v with
  | null => exact absurd rfl other
  | _ => rfl

theorem Datum.choice?_of_ne_nil (name : String) {members : List (String × Datum)}
    (others : members ≠ []) : (Datum.object ((name, v) :: members)).choice? = none := by
  cases members with
  | nil => exact absurd rfl others
  | cons => cases v <;> rfl

theorem toOption_chooseName (known : List (String × α)) (name : String) :
    (chooseName known name).toOption = known.lookup name := by
  rw [chooseName]
  cases known.lookup name <;> rfl

/-- An object chooses by its only member. -/
theorem readChoice_object (known : List (String × α)) {members : List (String × Datum)}
    (inside : Spells (.members true members) bytes) (blank : Blank blanks) (rest : List UInt8) :
    (readChoice known (blanks ++ (braceOpen :: (bytes ++ [braceClose]) ++ rest))).toOption =
      ((Datum.object members).choice?.bind fun name => known.lookup name).map (·, rest) := by
  rw [readChoice, skipBlanks_append blank, List.cons_append, skipBlanks_cons rfl, List.append_assoc,
    List.singleton_append]
  dsimp only
  rw [if_neg (by decide), if_pos rfl]
  cases inside with
  | noMember blank =>
    rw [readTextAs_of_ne ((skipBlanks_append blank _).trans (skipBlanks_cons rfl)) (by decide)]
    rfl
  | @member _ name w members lead key before after value more leads named blankBefore blankAfter spelled
      others =>
    cases leads with
    | first blank =>
      simp only [List.append_assoc, List.cons_append]
      rw [readTextAs_spelled blank named]
      have chosen := toOption_chooseName known name
      cases chooses : chooseName known name with
      | error cause =>
        have noChoice : ((Datum.object ((name, w) :: members)).choice?.bind fun name =>
            known.lookup name) = none := by
          rw [chooses] at chosen
          cases w with
          | null =>
            cases members with
            | nil => exact chosen.symm
            | cons => rfl
          | _ => rfl
        rw [noChoice]
        rfl
      | ok a =>
        rw [chooses] at chosen
        simp only [Except.map, Except.mapError]
        rw [readColon_spelled blankBefore]
        dsimp only
        obtain ⟨rfl, read⟩ | ⟨other, f, read⟩ := readNull_spelled spelled blankAfter
          (more ++ braceClose :: rest)
        · rw [read]
          dsimp only
          obtain ⟨rfl, ahead⟩ | ⟨some, tail, ahead⟩ := skipBlanks_members others rest
          · rw [ahead, Datum.choice?, Option.bind_some, ← chosen]
            rfl
          · rw [ahead, Datum.choice?_of_ne_nil name some]
            rfl
        · rw [read, Datum.choice?_of_ne_null name other]
          rfl

theorem readChoice_of_ne (known : List (String × α)) {b : UInt8} {tail : List UInt8}
    (ahead : skipBlanks bytes = b :: tail) (noText : b ≠ quote) (noObject : b ≠ braceOpen) :
    (readChoice known bytes).toOption = none := by
  rw [readChoice, ahead]
  dsimp only
  rw [if_neg noText, if_neg noObject]
  rfl

theorem understands_choice (known : List (String × α)) :
    Understands (readChoice known) fun v => v.choice?.bind fun name => known.lookup name := by
  intro v text blanks rest spelled blank follows
  have ahead := skipBlanks_spelled spelled blank rest
  cases spelled with
  | @text s text named =>
    have read : readTextAs "variant identifier" (chooseName known)
        ([] ++ quote :: (text ++ quote :: rest)) = _ :=
      readTextAs_spelled (show Blank [] from nofun) named rest
    rw [List.nil_append] at read
    rw [List.cons_append, List.append_assoc, List.singleton_append] at ahead ⊢
    rw [readChoice, ahead]
    dsimp only
    rw [if_pos rfl, read, Datum.choice?, Option.bind_some, ← toOption_chooseName]
    cases chooseName known s <;> rfl
  | object inside => exact readChoice_object known inside blank rest
  | number number =>
    obtain ⟨b, tail, bytes, opens, -⟩ := opens_of_isNumber number follows
    exact readChoice_of_ne known (ahead.trans bytes) (ne_of_opens_number opens (by decide) rfl)
      (ne_of_opens_number opens (by decide) rfl)
  | null => exact readChoice_of_ne known ahead (by decide) (by decide)
  | yes => exact readChoice_of_ne known ahead (by decide) (by decide)
  | no => exact readChoice_of_ne known ahead (by decide) (by decide)
  | array => exact readChoice_of_ne known ahead (by decide) (by decide)

/-! ### Members -/

theorem nextName_spelled {first : Bool} {lead : List UInt8} (leads : Lead first lead)
    (tail : List UInt8) : nextName first (lead ++ quote :: tail) = .ok (some tail) := by
  cases first with
  | true =>
    cases leads with
    | first blank =>
      rw [nextName, skipBlanks_append blank, skipBlanks_cons rfl]
      rfl
  | false =>
    obtain ⟨after, blank, ahead⟩ := skipBlanks_lead leads (quote :: tail)
    rw [nextName, ahead]
    dsimp only
    rw [if_neg (by decide), if_neg Bool.false_ne_true, if_pos rfl, skipBlanks_append blank,
      skipBlanks_cons rfl]
    rfl

/-- After its name the reader gives what becomes of its state with a member, if anything does. -/
def UnderstandsMembers {σ : Type} (member : String → σ → Reader σ)
    (take : σ → String × Datum → Option σ) : Prop :=
  ∀ (name : String) (s : σ) {v : Datum} {text before after rest : List UInt8},
    Spells (.value v) text → Blank before → Blank after → Follows rest →
      (member name s (before ++ colon :: (after ++ (text ++ rest)))).toOption =
        (take s (name, v)).map (·, rest)

theorem readMembers_spelled {σ : Type} {member : String → σ → Reader σ}
    {take : σ → String × Datum → Option σ} (understands : UnderstandsMembers member take)
    {first : Bool} {members : List (String × Datum)} (spelled : Spells (.members first members) bytes)
    {fuel : Nat} (enough : members.length < fuel) (s : σ) (rest : List UInt8) :
    (readMembers member fuel first s (bytes ++ braceClose :: rest)).toOption =
      (members.foldlM take s).map (·, braceClose :: rest) := by
  induction members generalizing first bytes fuel s with
  | nil =>
    obtain ⟨fuel, rfl⟩ := Nat.exists_eq_succ_of_ne_zero (Nat.ne_of_gt enough)
    cases spelled with
    | noMember blank =>
      have ahead : skipBlanks (bytes ++ braceClose :: rest) = braceClose :: rest :=
        (skipBlanks_append blank _).trans (skipBlanks_cons rfl)
      rw [readMembers, (nextName_eq_none first).mpr ⟨rest, ahead⟩]
      dsimp only
      rw [ahead]
      rfl
  | cons x members ih =>
    obtain ⟨name, v⟩ := x
    obtain ⟨fuel, rfl⟩ := Nat.exists_eq_succ_of_ne_zero (Nat.ne_of_gt (Nat.zero_lt_of_lt enough))
    cases spelled with
    | @member _ _ _ _ lead key before after text more leads named blankBefore blankAfter value others =>
      have follows := follows_members others rest
      simp only [List.append_assoc, List.cons_append]
      rw [readMembers, nextName_spelled leads]
      dsimp only
      rw [readText_spelled named, List.foldlM_cons]
      dsimp only
      obtain ⟨f, failed, refused⟩ | ⟨s', read, taken⟩ :=
        understood_cases (understands name s value blankBefore blankAfter follows)
      · rw [failed, refused]
        rfl
      · rw [read, taken]
        exact ih others (Nat.lt_of_succ_lt_succ enough) s'

theorem length_le_of_spells {first : Bool} {members : List (String × Datum)}
    (spelled : Spells (.members first members) bytes) : members.length ≤ bytes.length := by
  induction members generalizing first bytes with
  | nil => exact Nat.zero_le _
  | cons x members ih =>
    cases spelled with
    | member leads named blankBefore blankAfter value others =>
      have := ih others
      simp only [List.length_append, List.length_cons]
      omega

/-! ### Records -/

variable {σ β : Type} {r : Record σ α} {name : String} {before after : List UInt8}

/-- A member that a record knows is kept, unless it has been read before. -/
theorem readMember_known {optional : Bool} {get : σ → Option β} {set : σ → β → σ} {read : Reader β}
    {meaning : Datum → Option β}
    (known : r.fields.find? (·.name == name) = some (.of name optional get set read))
    (understands : Understands read meaning) (s : σ) (spelled : Spells (.value v) text)
    (blankBefore : Blank before) (blankAfter : Blank after) (follows : Follows rest) :
    (r.readMember name s (before ++ colon :: (after ++ (text ++ rest)))).toOption =
      (if (get s).isSome then none else (meaning v).map (set s)).map (·, rest) := by
  rw [Record.readMember, known]
  dsimp only [Field.of]
  by_cases present : (get s).isSome = true
  · rw [if_pos present, if_pos present]
    rfl
  · rw [if_neg present, if_neg present, readColon_spelled blankBefore]
    dsimp only
    obtain ⟨f, failed, nothing⟩ | ⟨b, read, means⟩ :=
      understood_cases (understands spelled blankAfter follows)
    · rw [failed, nothing]
      rfl
    · rw [read, means]
      rfl

/-- Any other member is passed over. -/
theorem readMember_unknown (unknown : r.fields.find? (·.name == name) = none) (s : σ)
    (spelled : Spells (.value v) text) (blankBefore : Blank before) (blankAfter : Blank after)
    (follows : Follows rest) :
    r.readMember name s (before ++ colon :: (after ++ (text ++ rest))) = .ok (s, rest) := by
  rw [Record.readMember, unknown]
  dsimp only
  rw [readColon_spelled blankBefore]
  dsimp only
  rw [skipValue_spelled spelled blankAfter follows]
  rfl

/-- A record gathers the members of an object one after the other, and is finished at its end. -/
theorem read_spelled {take : σ → String × Datum → Option σ}
    (understands : UnderstandsMembers r.readMember take) {members : List (String × Datum)} (spelled : Spells (.value (.object members)) text)
    (blank : Blank blanks) (rest : List UInt8) :
    (r.read (blanks ++ (text ++ rest))).toOption =
      ((members.foldlM take r.empty).bind fun s => (r.finish s).toOption).map (·, rest) := by
  have ahead := skipBlanks_spelled spelled blank rest
  cases spelled with
  | @object _ inside spelled =>
    rw [List.cons_append, List.append_assoc, List.singleton_append] at ahead ⊢
    have enough : members.length < (inside ++ braceClose :: rest).length + 1 := by
      have := length_le_of_spells spelled
      rw [List.length_append]
      omega
    rw [Record.read, ahead]
    dsimp only
    rw [if_neg (by decide), if_pos rfl]
    obtain ⟨f, failed, refused⟩ | ⟨s, read, gathered⟩ :=
      understood_cases (readMembers_spelled understands spelled enough r.empty rest)
    · rw [failed, refused]
      rfl
    · rw [read, gathered, Option.bind_some, Record.build]
      cases r.finish s <;> rfl

/-! ### Whole texts -/

theorem toOption_decode {read : Reader α} {x : Option α}
    (gives : (read bytes).toOption = x.map (·, rest)) (blank : Blank rest) :
    (decode read bytes).toOption = x := by
  have nothing : skipBlanks rest = [] := by
    have all := skipBlanks_append blank []
    rwa [List.append_nil] at all
  rw [decode, Except.toOption_mapError, readAll]
  obtain ⟨f, failed, refused⟩ | ⟨a, given, means⟩ := understood_cases gives
  · rw [failed, refused]
    rfl
  · rw [given, means]
    dsimp only
    rw [nothing]
    rfl

end RoomHub.Json
