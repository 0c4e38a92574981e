import Mathlib.Data.List.DropRight
import Mathlib.Tactic.SplitIfs
import RoomHub.Json.Record
import RoomHub.Proofs.Except

/-!
# What was read

If a reader succeeds, the bytes tell what it has done: one lemma for each reader, with a case for each
way in which it can have succeeded.
-/

namespace RoomHub.Json

open Byte

variable {bytes rest : List UInt8}

theorem skipBlanks_skipBlanks (bytes : List UInt8) :
    skipBlanks (skipBlanks bytes) = skipBlanks bytes :=
  List.dropWhile_idempotent isBlank bytes

/-! ### Numbers -/

theorem float_of_floatOf {positive : Bool} {significand : Nat} {exponent : Int} {n : Number}
    (h : floatOf positive significand exponent bytes = .ok (n, rest)) : ∃ x, n = .float x := by
  unfold floatOf at h
  split at h <;> cases h
  exact ⟨_, rfl⟩

theorem float_of_readExponent {positive : Bool} {significand : Nat} {start : Int} {n : Number}
    (h : readExponent positive significand start bytes = .ok (n, rest)) : ∃ x, n = .float x := by
  unfold readExponent at h
  simp only at h
  split at h
  next => cases h
  next =>
    split_ifs at h
    · cases h
      exact ⟨_, rfl⟩
    all_goals exact float_of_floatOf h

theorem float_of_readScale {positive : Bool} {significand : Nat} {exponent : Int} {n : Number}
    (h : readScale positive significand exponent bytes = .ok (n, rest)) : ∃ x, n = .float x := by
  unfold readScale at h
  split at h
  · exact float_of_readExponent h
  · exact float_of_readExponent h
  · exact float_of_floatOf h

theorem float_of_readFraction {positive : Bool} {significand : Nat} {exponent : Int} {n : Number}
    (h : readFraction positive significand exponent bytes = .ok (n, rest)) : ∃ x, n = .float x := by
  unfold readFraction at h
  simp only at h
  split_ifs at h
  · exact float_of_readScale h
  · exact float_of_readScale h

/-- A number with a point or an exponent is no whole number. -/
theorem whole_of_readNumber {positive : Bool} {n : Number}
    (h : readNumber positive bytes = .ok (n, rest)) :
    (∃ x, n = .float x) ∨ ∃ significand, n = wholeNumber positive significand := by
  have tail {significand : Nat} {bytes : List UInt8}
      (h : readTail positive significand bytes = .ok (n, rest)) :
      (∃ x, n = .float x) ∨ ∃ significand, n = wholeNumber positive significand := by
    unfold readTail at h
    split at h
    · exact .inl (float_of_readFraction h)
    · exact .inl (float_of_readExponent h)
    · exact .inl (float_of_readExponent h)
    · cases h
      exact .inr ⟨significand, rfl⟩
  unfold readNumber at h
  split at h
  next => cases h
  next b rest =>
    simp only at h
    split_ifs at h
    · exact tail h
    · split at h
      · exact .inl (float_of_readFraction h)
      · exact .inl (float_of_readScale h)
    · exact tail h

/-! ### Single values -/

/-- A number that was read goes to `visit`. -/
theorem number_of_visited {α : Type} {visit : Number → Except Cause α}
    {result : Except Fault (Number × List UInt8)} {a : α}
    (h : (match result with
      | .error f => .error f
      | .ok (n, rest) =>
        match visit n with
        | .ok a => .ok (a, rest)
        | .error cause => .error (.here cause rest)) = Except.ok (a, rest)) :
    ∃ n, result = .ok (n, rest) ∧ visit n = .ok a := by
  split at h
  next => cases h
  next n more =>
    split at h
    next a found =>
      cases h
      exact ⟨n, rfl, found⟩
    next => cases h

theorem readNumberAs_cases {α : Type} {expected : String} {visit : Number → Except Cause α} {a : α}
    (h : readNumberAs expected visit bytes = .ok (a, rest)) :
    ∃ b tail n, skipBlanks bytes = b :: tail ∧ visit n = .ok a ∧
      (b = minus ∧ readNumber false tail = .ok (n, rest) ∨
        isDigit b = true ∧ readNumber true (b :: tail) = .ok (n, rest)) := by
  unfold readNumberAs at h
  simp only at h
  split at h
  next => cases h
  next b tail ahead =>
    split_ifs at h with isMinus digits
    · obtain ⟨n, read, found⟩ := number_of_visited h
      exact ⟨b, tail, n, ahead, found, .inl ⟨isMinus, read⟩⟩
    · obtain ⟨n, read, found⟩ := number_of_visited h
      exact ⟨b, tail, n, ahead, found, .inr ⟨digits, read⟩⟩

theorem readTextAs_cases {α : Type} {expected : String} {visit : String → Except Cause α} {a : α}
    (h : readTextAs expected visit bytes = .ok (a, rest)) :
    ∃ tail s, skipBlanks bytes = quote :: tail ∧ readText tail = .ok (s, rest) ∧ visit s = .ok a := by
  unfold readTextAs at h
  split at h
  next => cases h
  next b tail ahead =>
    split_ifs at h with isText
    subst isText
    split at h
    next => cases h
    next s more read =>
      split at h
      next a found =>
        cases h
        exact ⟨tail, s, ahead, read, found⟩
      next => cases h

theorem readOptional_cases {α : Type} {read : Reader α} {a : Option α}
    (h : readOptional read bytes = .ok (a, rest)) :
    (∃ tail, skipBlanks bytes = letterN :: tail ∧ readWord nullTail tail = .ok rest ∧ a = none) ∨
      ∃ b, read (skipBlanks bytes) = .ok (b, rest) ∧ a = some b := by
  unfold readOptional at h
  split at h
  next b tail ahead =>
    split_ifs at h with isNull
    · subst isNull
      obtain ⟨more, word, same⟩ := Except.map_eq_ok.mp h
      cases same
      exact .inl ⟨tail, ahead, word, rfl⟩
    · obtain ⟨⟨b, more⟩, found, same⟩ := Except.map_eq_ok.mp h
      cases same
      exact .inr ⟨b, ahead ▸ found, rfl⟩
  next ahead =>
    obtain ⟨⟨b, more⟩, found, same⟩ := Except.map_eq_ok.mp h
    cases same
    exact .inr ⟨b, ahead ▸ found, rfl⟩

/-! ### Arrays and objects -/

theorem nextItem_of_endArray (h : endArray bytes = .ok rest) (first : Bool) :
    nextItem first bytes = .ok none := by
  unfold endArray at h
  unfold nextItem
  cases ahead : skipBlanks bytes with
  | nil =>
    rw [ahead] at h
    cases h
  | cons b tail =>
    rw [ahead] at h
    dsimp only at h ⊢
    by_cases closes : b = bracketClose
    · rw [if_pos closes]
    · rw [if_neg closes] at h
      split_ifs at h
      split at h <;> cases h

theorem nextName_eq_none (first : Bool) :
    nextName first bytes = .ok none ↔ ∃ tail, skipBlanks bytes = braceClose :: tail := by
  unfold nextName
  cases skipBlanks bytes with
  | nil => simp
  | cons b tail =>
    dsimp only
    by_cases closes : b = braceClose
    · simp [closes]
    · rw [if_neg closes]
      refine iff_of_false (fun h => ?_) fun ⟨_, same⟩ => closes (List.cons.inj same).1
      split_ifs at h
      · cases h
      · split at h
        · cases h
        · split_ifs at h
          cases h

theorem separator_of_nextName {start : List UInt8} (h : nextName false bytes = .ok (some start)) :
    ∃ tail, skipBlanks bytes = comma :: tail := by
  unfold nextName at h
  cases ahead : skipBlanks bytes with
  | nil =>
    rw [ahead] at h
    cases h
  | cons b tail =>
    rw [ahead] at h
    dsimp only at h
    rw [if_neg Bool.false_ne_true] at h
    split_ifs at h with closes separates
    · cases h
    · exact ⟨tail, separates ▸ rfl⟩

/-- A reader of members is at the closing bracket, or it reads a member and goes on. -/
theorem readMembers_cases {α : Type} {member : String → α → Reader α} {fuel : Nat} {first : Bool}
    {state result : α} (h : readMembers member fuel first state bytes = .ok (result, rest)) :
    (skipBlanks bytes = rest ∧ (∃ tail, rest = braceClose :: tail) ∧ result = state) ∨
      ∃ fuel' start name more next behind, fuel = fuel' + 1 ∧
        nextName first bytes = .ok (some start) ∧ readText start = .ok (name, more) ∧
        member name state more = .ok (next, behind) ∧
        readMembers member fuel' false next behind = .ok (result, rest) := by
  cases fuel with
  | zero => cases h
  | succ fuel =>
    rw [readMembers] at h
    split at h
    next => cases h
    next closed =>
      cases h
      exact .inl ⟨rfl, (nextName_eq_none _).mp closed, rfl⟩
    next start found =>
      split at h
      next => cases h
      next name more named =>
        split at h
        next => cases h
        next next behind read =>
          exact .inr ⟨fuel, start, name, more, next, behind, rfl, found, named, read, h⟩

theorem separator_of_readMembers {σ : Type} {member : String → σ → Reader σ} {fuel : Nat} {s t : σ}
    (members : readMembers member fuel false s bytes = .ok (t, rest)) :
    ∃ b tail, skipBlanks bytes = b :: tail ∧ (b = comma ∨ b = braceClose) := by
  obtain ⟨closed, ⟨tail, same⟩, -⟩ | ⟨-, start, -, -, -, -, -, found, -⟩ := readMembers_cases members
  · exact ⟨braceClose, tail, closed.trans same, .inr rfl⟩
  · obtain ⟨tail, ahead⟩ := separator_of_nextName found
    exact ⟨comma, tail, ahead, .inl rfl⟩

/-! ### Records -/

theorem field_of_read {σ α : Type} {name : String} {optional : Bool} {get : σ → Option α}
    {set : σ → α → σ} {read : Reader α} {s t : σ} :
    (Field.of name optional get set read).read s bytes = .ok (t, rest) ↔
      ∃ a, read bytes = .ok (a, rest) ∧ set s a = t := by
  refine Except.map_eq_ok.trans ⟨?_, ?_⟩
  · rintro ⟨⟨a, more⟩, found, same⟩
    cases same
    exact ⟨a, found, rfl⟩
  · rintro ⟨a, found, rfl⟩
    exact ⟨(a, rest), found, rfl⟩

/-- A member is read or passed over. -/
theorem readMember_cases {σ α : Type} {r : Record σ α} {name : String} {s t : σ}
    (h : r.readMember name s bytes = .ok (t, rest)) :
    ∃ value, readColon bytes = .ok value ∧
      ((∃ field ∈ r.fields, field.name = name ∧ field.read s value = .ok (t, rest)) ∨
        (∀ field ∈ r.fields, field.name ≠ name) ∧ skipValue value = .ok rest ∧ t = s) := by
  unfold Record.readMember at h
  split at h
  next field found =>
    split_ifs at h
    split at h
    next => cases h
    next value colon =>
      have named := List.find?_some found
      exact ⟨value, colon, .inl ⟨field, List.mem_of_find?_eq_some found, eq_of_beq named, h⟩⟩
  next none =>
    split at h
    next => cases h
    next value colon =>
      obtain ⟨more, passed, same⟩ := Except.map_eq_ok.mp h
      cases same
      refine ⟨value, colon, .inr ⟨fun field mem same => ?_, passed, rfl⟩⟩
      exact List.find?_eq_none.mp none field mem (beq_iff_eq.mpr same)

theorem readFields_cases {σ α : Type} {r : Record σ α} {field : Field σ} {fields : List (Field σ)}
    {count : Nat} {first : Bool} {s t : σ}
    (h : r.readFields (field :: fields) count first s bytes = .ok (t, rest)) :
    (nextItem first bytes = .ok none ∧ field.optional = true ∧
        r.readFields fields (count + 1) first s bytes = .ok (t, rest)) ∨
      ∃ start u more, nextItem first bytes = .ok (some start) ∧ field.read s start = .ok (u, more) ∧
        r.readFields fields (count + 1) false u more = .ok (t, rest) := by
  rw [Record.readFields] at h
  split at h
  next => cases h
  next none =>
    split_ifs at h with optional
    exact .inl ⟨none, optional, h⟩
  next start found =>
    split at h
    next => cases h
    next u more read => exact .inr ⟨start, u, more, found, read, h⟩

theorem decode_eq_ok_iff {α : Type} {read : Reader α} {a : α} :
    Json.decode read bytes = .ok a ↔ ∃ rest, read bytes = .ok (a, rest) ∧ skipBlanks rest = [] := by
  rw [Json.decode, Except.mapError_eq_ok, readAll]
  cases read bytes with
  | error f => simp
  | ok p =>
    obtain ⟨b, rest⟩ := p
    cases ahead : skipBlanks rest with
    | nil => simp [ahead]
    | cons c more => simp [ahead]

/-- A record is an array of its fields or an object with its members. -/
theorem read_cases {σ α : Type} {r : Record σ α} {a : α} (h : r.read bytes = .ok (a, rest)) :
    ∃ s p tail, r.finish s = .ok a ∧
      (skipBlanks bytes = bracketOpen :: tail ∧
          r.readFields r.fields 0 true r.empty tail = .ok (s, p) ∧ endArray p = .ok rest ∨
        skipBlanks bytes = braceOpen :: tail ∧
          readMembers r.readMember (tail.length + 1) true r.empty tail = .ok (s, p) ∧
          endObject p = .ok rest) := by
  have closed {close : List UInt8 → Except Fault (List UInt8)}
      {gathered : Except Fault (σ × List UInt8)} (h : closeWith close (r.build gathered) = .ok (a, rest)) :
      ∃ s p, r.finish s = .ok a ∧ gathered = .ok (s, p) ∧ close p = .ok rest := by
    unfold closeWith Record.build at h
    cases gathered with
    | error f => cases h
    | ok q =>
      obtain ⟨s, p⟩ := q
      dsimp only at h
      cases finished : r.finish s with
      | error cause =>
        rw [finished] at h
        cases h
      | ok b =>
        rw [finished] at h
        dsimp only at h
        split at h
        next end_ closes =>
          cases h
          exact ⟨s, p, finished, rfl, closes⟩
        next => cases h
  unfold Record.read at h
  split at h
  next => cases h
  next b tail ahead =>
    split_ifs at h with isArray isObject
    · obtain ⟨s, p, finished, gathered, closes⟩ := closed h
      exact ⟨s, p, tail, finished, .inl ⟨isArray ▸ ahead, gathered, closes⟩⟩
    · obtain ⟨s, p, finished, gathered, closes⟩ := closed h
      exact ⟨s, p, tail, finished, .inr ⟨isObject ▸ ahead, gathered, closes⟩⟩

end RoomHub.Json
