import RoomHub.Proofs.Json.Inversion
import RoomHub.Proofs.Json.Scalars
import RoomHub.Proofs.Text.Blank
import RoomHub.Wire.Identity

/-!
# Rooms have one name

A text names a room (`RoomId.Names`) if between one and 128 code points remain of it after trimming,
and these are the name of the room (`RoomId.ofText_eq_ok_iff`): two texts name the same room exactly if
the same remains of both (`RoomId.names_same_iff`).  The name of a room names that room, as a text and in
JSON (`RoomId.ofText_text`, `Wire.reads_identifier`).
-/

namespace RoomHub

open Text

namespace RoomId

/-- A text names a room: it has neither too few nor too many code points between its blanks. -/
def Names (s : String) : Prop := 1 ≤ (trim s).length ∧ (trim s).length ≤ maxLength

instance (s : String) : Decidable (Names s) :=
  inferInstanceAs (Decidable (1 ≤ (trim s).length ∧ (trim s).length ≤ maxLength))

variable {s t : String} {r : RoomId}

theorem eq_of_text {a b : RoomId} (same : a.text = b.text) : a = b := by
  cases a
  cases b
  cases same
  rfl

/-- The room that a text names is stored as the text without the blanks around it. -/
theorem ofText_eq_ok_iff : ofText s = .ok r ↔ trim s = r.text := by
  unfold ofText
  constructor
  · intro named
    split_ifs at named
    cases named
    rfl
  · intro same
    rw [dif_neg (same ▸ r.nonempty), dif_pos (same ▸ r.short)]
    exact congrArg Except.ok (eq_of_text same)

theorem exists_ofText_iff : (∃ r, ofText s = .ok r) ↔ Names s := by
  constructor
  · rintro ⟨r, named⟩
    rw [Names, ofText_eq_ok_iff.1 named]
    exact ⟨Nat.pos_of_ne_zero (by simpa using r.nonempty), r.short⟩
  · rintro ⟨some_left, short⟩
    have nonempty : trim s ≠ "" := fun empty => by simp [empty] at some_left
    exact ⟨⟨trim s, trim_trim s, nonempty, short⟩, ofText_eq_ok_iff.2 rfl⟩

/-- The name of a room names the room itself. -/
theorem ofText_text (r : RoomId) : ofText r.text = .ok r := ofText_eq_ok_iff.2 r.trimmed

/-- Two texts name one room exactly if both name a room and the same remains of both. -/
theorem names_same_iff :
    (∃ r, ofText s = .ok r ∧ ofText t = .ok r) ↔ Names s ∧ Names t ∧ trim s = trim t := by
  constructor
  · rintro ⟨r, first, second⟩
    exact ⟨exists_ofText_iff.1 ⟨r, first⟩, exists_ofText_iff.1 ⟨r, second⟩,
      (ofText_eq_ok_iff.1 first).trans (ofText_eq_ok_iff.1 second).symm⟩
  · rintro ⟨names, -, same⟩
    obtain ⟨r, named⟩ := exists_ofText_iff.2 names
    exact ⟨r, named, ofText_eq_ok_iff.2 (same ▸ ofText_eq_ok_iff.1 named)⟩

/-- What a text says about a room that another one names. -/
theorem ofText_eq_ok_iff_of_named (named : ofText s = .ok r) :
    ofText t = .ok r ↔ Names t ∧ trim s = trim t := by
  rw [ofText_eq_ok_iff, ofText_eq_ok_iff.1 named]
  constructor
  · intro same
    exact ⟨exists_ofText_iff.1 ⟨r, ofText_eq_ok_iff.2 same⟩, same.symm⟩
  · exact fun same => same.2.symm

end RoomId

namespace Wire

open Json

variable {α : Type} {of : String → Except IdentifierError α} {s : String} {a : α}
  {bytes rest : List UInt8}

/-- A text that names something is read as what it names. -/
theorem reads_identifier (named : of s = .ok a) : Reads (readIdentifier of) (writeText s) a := by
  intro rest closes
  unfold readIdentifier
  rw [reads_string s rest closes]
  dsimp only
  rw [named]

theorem readIdentifier_eq_ok_iff :
    readIdentifier of bytes = .ok (a, rest) ↔
      ∃ s, readString bytes = .ok (s, rest) ∧ of s = .ok a := by
  unfold readIdentifier
  cases readString bytes with
  | error fault => simp
  | ok read =>
    obtain ⟨t, more⟩ := read
    cases named : of t with
    | error why => simp [named]
    | ok b => simp [named, and_comm]

/-- What is read as an identifier is a text that names it. -/
theorem decode_identifier_eq_ok_iff :
    Json.decode (readIdentifier of) bytes = .ok a ↔
      ∃ s, Json.decode readString bytes = .ok s ∧ of s = .ok a := by
  simp only [decode_eq_ok_iff, readIdentifier_eq_ok_iff]
  constructor
  · rintro ⟨rest, ⟨s, read, named⟩, done⟩
    exact ⟨s, ⟨rest, read, done⟩, named⟩
  · rintro ⟨s, ⟨rest, read, done⟩, named⟩
    exact ⟨rest, ⟨s, read, named⟩, done⟩

end Wire
end RoomHub
