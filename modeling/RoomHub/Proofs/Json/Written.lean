import RoomHub.Proofs.Json.Passing
import RoomHub.Proofs.Json.Scalars

/-!
# Written arrays and objects are read back

An array is read back as the list of its items (`reads_array`).  An object is read back by a record
whose fields gather the members one after the other (`Gathers`, `reads_object`); a member that the
record does not know is passed over (`takes_unknown`).
-/

namespace RoomHub.Json

open Byte Text

variable {α : Type}

/-! ### Arrays -/

theorem separated_cons (separator : Char) (piece : List Char) (pieces : List (List Char)) :
    separated separator (piece :: pieces) = piece ++ pieces.flatMap (separator :: ·) := by
  induction pieces generalizing piece with
  | nil => exact (List.append_nil piece).symm
  | cons next pieces ih =>
    rw [separated, ih, List.flatMap_cons, List.cons_append]
    intro h
    cases h

theorem encodeChar_comma : Utf8.encodeChar ',' = [comma] := rfl

theorem length_le_of_separators (pieces : List (List Char)) :
    pieces.length ≤ (Utf8.encode (pieces.flatMap (',' :: ·))).length := by
  induction pieces with
  | nil => exact Nat.le_refl _
  | cons piece pieces ih =>
    rw [List.flatMap_cons, List.cons_append, Utf8.encode_cons, Utf8.encode_append, encodeChar_comma]
    simp only [List.length_cons, List.length_append, List.length_nil]
    omega

theorem length_le_separated (pieces : List (List Char)) (b : UInt8) (rest : List UInt8) :
    pieces.length ≤ (Utf8.encode (separated ',' pieces) ++ b :: rest).length := by
  cases pieces with
  | nil => exact Nat.zero_le _
  | cons piece pieces =>
    have := length_le_of_separators pieces
    rw [separated_cons, Utf8.encode_append]
    simp only [List.length_cons, List.length_append]
    omega

theorem closes_separators (pieces : List (List Char)) {b : UInt8}
    (closer : b = bracketClose ∨ b = braceClose) (rest : List UInt8) :
    Closes (Utf8.encode (pieces.flatMap (',' :: ·)) ++ b :: rest) := by
  cases pieces with
  | nil => exact .inr closer
  | cons piece pieces => exact .inl rfl

section Arrays

variable {item : Reader α} {write : α → List Char} {b : UInt8}

theorem readItems_written {as : List α} (reads : ∀ a ∈ as, Reads item (write a) a)
    (opens : ∀ a ∈ as, Opens b (write a)) (visible : isBlank b = false) (value : b ≠ bracketClose)
    {fuel : Nat} (enough : as.length < fuel) (rest : List UInt8) :
    readItems item fuel false
        (Utf8.encode ((as.map write).flatMap (',' :: ·)) ++ bracketClose :: rest) =
      .ok (as, bracketClose :: rest) := by
  induction as generalizing fuel with
  | nil =>
    obtain ⟨fuel, rfl⟩ := Nat.exists_eq_succ_of_ne_zero (Nat.ne_of_gt enough)
    rfl
  | cons a as ih =>
    obtain ⟨fuel, rfl⟩ := Nat.exists_eq_succ_of_ne_zero (Nat.ne_of_gt (Nat.zero_lt_of_lt enough))
    have more := ih (fun c mem => reads c (List.mem_cons_of_mem a mem))
      (fun c mem => opens c (List.mem_cons_of_mem a mem)) (Nat.lt_of_succ_lt_succ enough)
    have read := reads a List.mem_cons_self _ (closes_separators (as.map write) (.inl rfl) rest)
    obtain ⟨tail, bytes⟩ := opens a List.mem_cons_self
    rw [List.map_cons, List.flatMap_cons, List.cons_append, Utf8.encode_cons, encodeChar_comma,
      Utf8.encode_append, List.singleton_append, List.cons_append, List.append_assoc]
    rw [bytes, List.cons_append] at read ⊢
    have next (tail : List UInt8) : nextItem false (comma :: b :: tail) = .ok (some (b :: tail)) := by
      rw [nextItem, skipBlanks_cons rfl]
      dsimp only
      rw [if_neg (by decide), if_neg (by decide), if_pos rfl, skipBlanks_cons visible]
      exact if_neg value
    rw [readItems, next]
    dsimp only
    rw [read]
    dsimp only
    rw [more]

theorem encode_between {c d : Char} {open_ close : UInt8} (opening : Utf8.encodeChar c = [open_])
    (closing : Utf8.encodeChar d = [close]) (cs : List Char) (rest : List UInt8) :
    Utf8.encode (c :: cs ++ [d]) ++ rest = open_ :: (Utf8.encode cs ++ close :: rest) := by
  rw [List.cons_append, Utf8.encode_cons, Utf8.encode_append, opening, Utf8.encode_cons, closing,
    Utf8.encode_nil, List.append_nil, List.singleton_append, List.cons_append, List.append_assoc,
    List.singleton_append]

theorem encode_writeArray (items : List (List Char)) (rest : List UInt8) :
    Utf8.encode (writeArray items) ++ rest =
      bracketOpen :: (Utf8.encode (separated ',' items) ++ bracketClose :: rest) :=
  encode_between rfl rfl _ rest

theorem reads_array {as : List α} (reads : ∀ a ∈ as, Reads item (write a) a)
    (opens : ∀ a ∈ as, Opens b (write a)) (visible : isBlank b = false) (value : b ≠ bracketClose) :
    Reads (readArray item) (writeArray (as.map write)) as := by
  intro rest _
  have items (fuel : Nat) (enough : as.length ≤ fuel) :
      readItems item (fuel + 1) true
          (Utf8.encode (separated ',' (as.map write)) ++ bracketClose :: rest) =
        .ok (as, bracketClose :: rest) := by
    cases as with
    | nil => rfl
    | cons a as =>
      have more := readItems_written (fun c mem => reads c (List.mem_cons_of_mem a mem))
        (fun c mem => opens c (List.mem_cons_of_mem a mem)) visible value enough rest
      have read := reads a List.mem_cons_self _
        (closes_separators (as.map write) (.inl rfl) rest)
      obtain ⟨tail, bytes⟩ := opens a List.mem_cons_self
      rw [List.map_cons, separated_cons, Utf8.encode_append, List.append_assoc]
      rw [bytes, List.cons_append] at read ⊢
      rw [readItems, nextItem, skipBlanks_cons visible]
      dsimp only
      rw [if_neg value, if_pos rfl]
      dsimp only
      rw [read]
      dsimp only
      rw [more]
  have enough := length_le_separated (as.map write) bracketClose rest
  rw [List.length_map] at enough
  rw [encode_writeArray, readArray, skipBlanks_cons rfl]
  dsimp only
  rw [if_pos rfl, readArrayTail, items _ enough]
  rfl

end Arrays

/-! ### Objects -/

/-- A member as it is written. -/
def writeMember (member : String × List Char) : List Char :=
  writeText member.1 ++ ':' :: member.2

section Objects

variable {σ β : Type} {r : Record σ α}

/-- What is written can be passed over. -/
def Passes (written : List Char) : Prop :=
  ∀ rest, Closes rest → skipValue (Utf8.encode written ++ rest) = .ok rest

theorem passes_text (s : String) : Passes (writeText s) :=
  fun rest closes => skipValue_of_readTextAs (reads_string s rest closes)

/-- A record keeps what a member is read as. -/
def Takes (r : Record σ α) (s : σ) (name : String) (value : List Char) (s' : σ) : Prop :=
  ∀ rest, Closes rest →
    r.readMember name s (colon :: (Utf8.encode value ++ rest)) = .ok (s', rest)

theorem readColon_cons (rest : List UInt8) : readColon (colon :: rest) = .ok rest := rfl

theorem takes_known {s s' : σ} {name : String} {value : List Char} {field : Field σ}
    (known : r.fields.find? (·.name == name) = some field) (absent : field.present s = false)
    (reads : Reads (field.read s) value s') : Takes r s name value s' := by
  intro rest closes
  rw [Record.readMember, known]
  dsimp only
  rw [if_neg (by rw [absent]; decide), readColon_cons]
  exact reads rest closes

theorem takes_unknown {name : String} {value : List Char}
    (unknown : r.fields.find? (·.name == name) = none) (passes : Passes value) (s : σ) :
    Takes r s name value s := by
  intro rest closes
  rw [Record.readMember, unknown]
  dsimp only
  rw [readColon_cons]
  dsimp only
  rw [passes rest closes]
  rfl

theorem reads_fieldOf {name : String} {optional : Bool} {get : σ → Option β} {set : σ → β → σ}
    {read : Reader β} {value : List Char} {b : β} (reads : Reads read value b) (s : σ) :
    Reads ((Field.of name optional get set read).read s) value (set s b) := by
  intro rest closes
  show (read (Utf8.encode value ++ rest)).map _ = _
  rw [reads rest closes]
  rfl

/-- A record gathers members into its fields. -/
inductive Gathers (r : Record σ α) : σ → List (String × List Char) → σ → Prop
  | nil (s : σ) : Gathers r s [] s
  | cons {s s' s'' : σ} {name : String} {value : List Char} {members : List (String × List Char)}
      (takes : Takes r s name value s') (more : Gathers r s' members s'') :
      Gathers r s ((name, value) :: members) s''

theorem Gathers.append {s s' s'' : σ} {members others : List (String × List Char)}
    (gathers : Gathers r s members s') (more : Gathers r s' others s'') :
    Gathers r s (members ++ others) s'' := by
  induction gathers with
  | nil => exact more
  | cons takes _ ih => exact .cons takes (ih more)

/-- The fields after a member that may have been left out. -/
theorem gathers_optional {s s' : σ} {name : String} {write : β → List Char} {x : Option β}
    (absent : x = none → s' = s) (present : ∀ y, x = some y → Takes r s name (write y) s') :
    Gathers r s (optionalMember name (x.map write)) s' := by
  cases x with
  | none =>
    rw [absent rfl]
    exact .nil s
  | some y => exact .cons (present y rfl) (.nil s')

theorem encode_writeMember (name : String) (value : List Char) (rest : List UInt8) :
    Utf8.encode (writeMember (name, value)) ++ rest =
      quote :: (Utf8.encode (name.toList.flatMap escapeChar) ++
        quote :: colon :: (Utf8.encode value ++ rest)) := by
  have colonByte : Utf8.encodeChar ':' = [colon] := rfl
  rw [writeMember, Utf8.encode_append, List.append_assoc, encode_writeText, Utf8.encode_cons, colonByte]
  rfl

/-- One round of reading members. -/
theorem readMembers_step {s s' : σ} {name : String} {value : List Char} {first : Bool}
    {bytes rest : List UInt8}
    (next : nextName first bytes = .ok (some (Utf8.encode (name.toList.flatMap escapeChar) ++
      quote :: colon :: (Utf8.encode value ++ rest))))
    (takes : Takes r s name value s') (closes : Closes rest) (fuel : Nat) :
    readMembers r.readMember (fuel + 1) first s bytes =
      readMembers r.readMember fuel false s' rest := by
  rw [readMembers, next]
  dsimp only
  rw [readText_escaped]
  dsimp only
  rw [takes rest closes]

theorem readMembers_written {s s' : σ} {members : List (String × List Char)}
    (gathers : Gathers r s members s') {fuel : Nat} (enough : members.length < fuel)
    (rest : List UInt8) :
    readMembers r.readMember fuel false s
        (Utf8.encode ((members.map writeMember).flatMap (',' :: ·)) ++ braceClose :: rest) =
      .ok (s', braceClose :: rest) := by
  induction gathers generalizing fuel with
  | nil =>
    obtain ⟨fuel, rfl⟩ := Nat.exists_eq_succ_of_ne_zero (Nat.ne_of_gt enough)
    rfl
  | @cons s s₁ s₂ name value members takes _ ih =>
    obtain ⟨fuel, rfl⟩ := Nat.exists_eq_succ_of_ne_zero (Nat.ne_of_gt (Nat.zero_lt_of_lt enough))
    have more := ih (Nat.lt_of_succ_lt_succ enough)
    have closes := closes_separators (members.map writeMember) (b := braceClose) (.inr rfl) rest
    rw [List.map_cons, List.flatMap_cons, List.cons_append, Utf8.encode_cons, encodeChar_comma,
      Utf8.encode_append, List.singleton_append, List.cons_append, List.append_assoc,
      encode_writeMember]
    exact (readMembers_step rfl takes closes fuel).trans more

theorem encode_writeObject (members : List (String × List Char)) (rest : List UInt8) :
    Utf8.encode (writeObject members) ++ rest =
      braceOpen :: (Utf8.encode (separated ',' (members.map writeMember)) ++ braceClose :: rest) :=
  encode_between rfl rfl _ rest

theorem opens_object (members : List (String × List Char)) : Opens braceOpen (writeObject members) :=
  ⟨_, (List.append_nil _).symm.trans (encode_writeObject members [])⟩

/-- A record reads back the object whose members it gathers. -/
theorem reads_object {members : List (String × List Char)} {s : σ} {a : α}
    (gathers : Gathers r r.empty members s) (finished : r.finish s = .ok a) :
    Reads r.read (writeObject members) a := by
  intro rest _
  have gathered (fuel : Nat) (enough : members.length ≤ fuel) :
      readMembers r.readMember (fuel + 1) true r.empty
          (Utf8.encode (separated ',' (members.map writeMember)) ++ braceClose :: rest) =
        .ok (s, braceClose :: rest) := by
    cases gathers with
    | nil => rfl
    | @cons _ s₁ _ name value members takes more =>
      have closes := closes_separators (members.map writeMember) (b := braceClose) (.inr rfl) rest
      rw [List.map_cons, separated_cons, Utf8.encode_append, List.append_assoc, encode_writeMember]
      exact (readMembers_step rfl takes closes fuel).trans (readMembers_written more enough rest)
  have enough := length_le_separated (members.map writeMember) braceClose rest
  rw [List.length_map] at enough
  rw [encode_writeObject, Record.read, skipBlanks_cons rfl]
  dsimp only
  rw [if_neg (by decide), if_pos rfl, gathered _ enough, Record.build]
  simp only [finished]
  rfl

end Objects

/-! ### Whole texts -/

theorem decode_encode {read : Reader α} {written : List Char} {a : α} (reads : Reads read written a) :
    decode read (Utf8.encode written) = .ok a := by
  have found := reads [] trivial
  rw [List.append_nil] at found
  rw [decode, readAll, found]
  rfl

end RoomHub.Json
