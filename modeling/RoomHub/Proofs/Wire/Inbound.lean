import RoomHub.Proofs.Json.Understood
import RoomHub.Wire.Socket

/-!
# What a client's record depends on

A client's record is an object with a kind and perhaps a content, each once, whatever other members it
has and however it is written (`inbound_law`).
-/

namespace RoomHub.Wire

open Json

namespace Inbound

/-- The values under a name. -/
def under (name : String) (members : List (String × Datum)) : List Datum :=
  (members.filter (·.1 = name)).map (·.2)

/-- The kind that a value names. -/
def kind? (v : Datum) : Option MessageKind := v.choice?.bind fun name => messageKinds.lookup name

/-- The fields after a member.  A field that is there cannot come again. -/
def take (s : Fields) (member : String × Datum) : Option Fields :=
  if member.1 = "type" then
    if s.kind.isSome then none else (kind? member.2).map fun k => { s with kind := some k }
  else if member.1 = "content" then
    if s.content.isSome then none else member.2.text?.map fun c => { s with content := some c }
  else some s

theorem find_type : record.fields.find? (·.name == "type") =
    some (.of "type" false (·.kind) (fun s k => { s with kind := some k }) readKind) := rfl

theorem find_content : record.fields.find? (·.name == "content") =
    some (.of "content" true (·.content) (fun s c => { s with content := some c }) readString) := rfl

theorem find_other {name : String} (noType : name ≠ "type") (noContent : name ≠ "content") :
    record.fields.find? (·.name == name) = none := by
  simp [record, Field.of, Ne.symm noType, Ne.symm noContent]

theorem understandsMembers : UnderstandsMembers record.readMember take := by
  intro name s v text before after rest spelled blankBefore blankAfter follows
  by_cases isType : name = "type"
  · subst isType
    exact readMember_known find_type (understands_choice messageKinds) s spelled blankBefore
      blankAfter follows
  · rw [take, if_neg isType]
    by_cases isContent : name = "content"
    · subst isContent
      exact readMember_known find_content understands_string s spelled blankBefore blankAfter follows
    · rw [if_neg isContent, readMember_unknown (find_other isType isContent) s spelled blankBefore
        blankAfter follows]
      rfl

/-- The record is what becomes of the fields with one member after the other. -/
theorem decode_spelled {members : List (String × Datum)} {text lead trail : List UInt8}
    (spelled : Spells (.value (.object members)) text) (blankLead : Blank lead)
    (blankTrail : Blank trail) :
    (decode (lead ++ (text ++ trail))).toOption =
      (members.foldlM take {}).bind fun s => (record.finish s).toOption :=
  toOption_decode (read_spelled understandsMembers spelled blankLead trail) blankTrail

/-! ### One field at a time -/

/-- A field after one more value under its name. -/
def fill {β : Type} (meaning : Datum → Option β) (field : Option β) (v : Datum) : Option (Option β) :=
  if field.isSome then none else (meaning v).map some

/-- A field is filled by one value at most. -/
theorem foldlM_fill {β : Type} (meaning : Datum → Option β) (values : List Datum)
    (field : Option β) :
    values.foldlM (fill meaning) none = some field ↔
      values = [] ∧ field = none ∨ ∃ v b, values = [v] ∧ meaning v = some b ∧ field = some b := by
  cases values with
  | nil => simp [eq_comm]
  | cons v values =>
    have first : fill meaning none v = (meaning v).map some := rfl
    rw [List.foldlM_cons, first]
    cases said : meaning v with
    | none => simp [said]
    | some b =>
      cases values with
      | nil => simp [said, eq_comm]
      | cons w values => simp [fill]

theorem under_cons (name other : String) (v : Datum) (members : List (String × Datum)) :
    under name ((other, v) :: members) =
      if other = name then v :: under name members else under name members := by
  by_cases same : other = name <;> simp [under, same]

theorem take_type (s : Fields) (v : Datum) :
    take s ("type", v) = (fill kind? s.kind v).map fun kind => { s with kind := kind } := by
  rw [take, if_pos rfl, fill]
  split_ifs
  · rfl
  · cases kind? v <;> rfl

theorem take_content (s : Fields) (v : Datum) :
    take s ("content", v) =
      (fill Datum.text? s.content v).map fun content => { s with content := content } := by
  rw [take, if_neg (show ¬"content" = "type" by decide), if_pos rfl, fill]
  split_ifs
  · rfl
  · cases v.text? <;> rfl

theorem take_other (s : Fields) {name : String} (v : Datum) (noType : name ≠ "type")
    (noContent : name ≠ "content") : take s (name, v) = some s := by
  rw [take, if_neg noType, if_neg noContent]

/-- The two fields are filled by the values under their names, each by itself. -/
theorem foldlM_take (members : List (String × Datum)) (kind kind' : Option MessageKind)
    (content content' : Option String) :
    members.foldlM take ⟨kind, content⟩ = some ⟨kind', content'⟩ ↔
      (under "type" members).foldlM (fill kind?) kind = some kind' ∧
        (under "content" members).foldlM (fill Datum.text?) content = some content' := by
  -- On the members: each is one value more for one of the fields, or for neither.
  induction members generalizing kind content with
  | nil => simp [under]
  | cons x members ih =>
    obtain ⟨name, v⟩ := x
    rw [List.foldlM_cons, under_cons, under_cons]
    by_cases isType : name = "type"
    · subst isType
      rw [take_type, if_pos rfl, if_neg (by decide), List.foldlM_cons]
      cases fill kind? kind v with
      | none => simp
      | some filled => exact ih filled content
    · rw [if_neg isType]
      by_cases isContent : name = "content"
      · subst isContent
        rw [take_content, if_pos rfl, List.foldlM_cons]
        cases fill Datum.text? content v with
        | none => simp
        | some filled => exact ih kind filled
      · rw [take_other _ v isType isContent, if_neg isContent]
        exact ih kind content

/-! ### What is read -/

theorem lookup_messageKinds {name : String} {k : MessageKind} :
    messageKinds.lookup name = some k ↔ name = k.name := by
  constructor
  · intro found
    obtain ⟨before, after, split, -⟩ := List.lookup_eq_some_iff.mp found
    have mem : (name, k) ∈ messageKinds := split ▸ List.mem_append_right _ List.mem_cons_self
    obtain ⟨k', -, same⟩ := List.mem_map.mp mem
    cases same
    rfl
  · rintro rfl
    cases k <;> decide

theorem kind?_eq_some {v : Datum} {k : MessageKind} :
    kind? v = some k ↔ v = .text k.name ∨ v = .object [(k.name, .null)] := by
  simp only [kind?, Option.bind_eq_some_iff, lookup_messageKinds]
  constructor
  · rintro ⟨name, chosen, rfl⟩
    exact Datum.choice?_eq_some.mp chosen
  · exact fun chooses => ⟨k.name, Datum.choice?_eq_some.mpr chooses, rfl⟩

theorem finish_eq (s : Fields) :
    (record.finish s).toOption = s.kind.map fun kind => ⟨kind, s.content.getD ""⟩ := by
  obtain ⟨kind, content⟩ := s
  cases kind <;> rfl

/-- A record is read exactly if the kind is named once and the content is a text, if there is one. -/
theorem decode_eq_ok_iff_under {members : List (String × Datum)} {text lead trail : List UInt8}
    (spelled : Spells (.value (.object members)) text) (blankLead : Blank lead)
    (blankTrail : Blank trail) (m : Inbound) :
    decode (lead ++ (text ++ trail)) = .ok m ↔
      (∃ v, under "type" members = [v] ∧ (v = .text m.kind.name ∨ v = .object [(m.kind.name, .null)])) ∧
        (under "content" members = [] ∧ m.content = "" ∨
          under "content" members = [.text m.content]) := by
  rw [← Except.toOption_eq_some, decode_spelled spelled blankLead blankTrail, Option.bind_eq_some_iff]
  constructor
  · rintro ⟨⟨kind, content⟩, folded, finished⟩
    obtain ⟨types, contents⟩ := (foldlM_take members none kind none content).mp folded
    rw [finish_eq] at finished
    obtain ⟨k, same, rfl⟩ := Option.map_eq_some_iff.mp finished
    obtain rfl : kind = some k := same
    obtain ⟨-, none⟩ | ⟨v, _, one, named, same⟩ := (foldlM_fill ..).mp types
    · cases none
    · cases same
      refine ⟨⟨v, one, kind?_eq_some.mp named⟩, ?_⟩
      obtain ⟨absent, rfl⟩ | ⟨v, c, one, said, rfl⟩ := (foldlM_fill ..).mp contents
      · exact .inl ⟨absent, rfl⟩
      · obtain rfl := Datum.eq_of_text? said
        exact .inr one
  · rintro ⟨⟨v, one, named⟩, contents⟩
    have types : (under "type" members).foldlM (fill kind?) none = some (some m.kind) :=
      (foldlM_fill ..).mpr (.inr ⟨v, m.kind, one, kind?_eq_some.mpr named, rfl⟩)
    obtain ⟨kind, content⟩ := m
    rcases contents with ⟨absent, rfl⟩ | one
    · have nothing := (foldlM_fill Datum.text? _ none).mpr (.inl ⟨absent, rfl⟩)
      exact ⟨_, (foldlM_take ..).mpr ⟨types, nothing⟩, rfl⟩
    · have something := (foldlM_fill Datum.text? _ (some content)).mpr (.inr ⟨_, _, one, rfl, rfl⟩)
      exact ⟨_, (foldlM_take ..).mpr ⟨types, something⟩, rfl⟩

/-- A client's record, in whatever order, with whatever blanks and escapes its members are written, is
read exactly if one member is named `type`, its value names a kind, and at most one is named
`content`, whose value is a text; it is this kind and this text, or no text.  So the other members
make no difference, whatever their names and values, and a second `type` or `content` is always
refused. -/
theorem inbound_law {members : List (String × Datum)} {text lead trail : List UInt8}
    (spelled : Spells (.value (.object members)) text) (blankLead : Blank lead)
    (blankTrail : Blank trail) :
    (∀ m, decode (lead ++ (text ++ trail)) = .ok m ↔
      (∃ v, under "type" members = [v] ∧
        (v = .text m.kind.name ∨ v = .object [(m.kind.name, .null)])) ∧
      (under "content" members = [] ∧ m.content = "" ∨
        under "content" members = [.text m.content])) ∧
    (∀ (members' : List (String × Datum)) (text' lead' trail' : List UInt8),
      Spells (.value (.object members')) text' → Blank lead' → Blank trail' →
      under "type" members' = under "type" members →
      under "content" members' = under "content" members →
      (decode (lead' ++ (text' ++ trail'))).toOption = (decode (lead ++ (text ++ trail))).toOption) ∧
    (1 < (under "type" members).length ∨ 1 < (under "content" members).length →
      ∃ report, decode (lead ++ (text ++ trail)) = .error report) := by
  have law := decode_eq_ok_iff_under spelled blankLead blankTrail
  refine ⟨law, ?_, ?_⟩
  · intro members' text' lead' trail' spelled' blankLead' blankTrail' types contents
    have law' := decode_eq_ok_iff_under spelled' blankLead' blankTrail'
    ext m
    rw [Except.toOption_eq_some, Except.toOption_eq_some, law, law', types, contents]
  · intro repeated
    cases result : decode (lead ++ (text ++ trail)) with
    | error report => exact ⟨report, rfl⟩
    | ok m =>
      obtain ⟨⟨v, one, -⟩, contents⟩ := (law m).mp result
      rw [one] at repeated
      rcases contents with ⟨absent, -⟩ | single
      · rw [absent] at repeated
        exact absurd repeated (by simp)
      · rw [single] at repeated
        exact absurd repeated (by simp)

/-- The name of the kind is escaped, and another member holds an object with a kind of its own. -/
theorem inbound_law_forged :
    let text := Text.Utf8.ofText
      "\x7b \"sender_id\":[\x7b\"type\":null\x7d] ,\"\\u0074ype\":\"chat\", \"content\" : \"one\"\x7d"
    let members : List (String × Datum) :=
      [("sender_id", .array [.object [("type", .null)]]), ("type", .text "chat"),
        ("content", .text "one")]
    decode ([0x20] ++ (text ++ [0x0a])) = .ok ⟨.chat, "one"⟩ ∧
      ∀ m, decode ([0x20] ++ (text ++ [0x0a])) = .ok m ↔
        (∃ v, under "type" members = [v] ∧
          (v = .text m.kind.name ∨ v = .object [(m.kind.name, .null)])) ∧
        (under "content" members = [] ∧ m.content = "" ∨
          under "content" members = [.text m.content]) := by
  intro text members
  have plain (s : String)
      (h : s.toList.all (fun c => c != '"' && c != '\\' && decide (0x20 ≤ c.toNat)) = true) :
      SpellsChars s.toList (Text.Utf8.ofText s) :=
    spellsChars_encode fun c mem => by simpa [and_assoc] using List.all_eq_true.mp h c mem
  have none : Blank [] := by decide
  have space : Blank [0x20] := by decide
  have zero : IsHexDigit 0x30 0 := .inl ⟨by decide, rfl⟩
  have letterT : SpellsChar 't' [0x5c, 0x75, 0x30, 0x30, 0x37, 0x34] :=
    .numbered (IsHex.mk zero zero (show IsHexDigit 0x37 7 from .inl ⟨by decide, rfl⟩)
      (show IsHexDigit 0x34 4 from .inl ⟨by decide, rfl⟩))
  have escaped : SpellsChars "type".toList _ := .cons letterT (plain "ype" (by decide))
  have forged := Spells.array (.item (.first none)
    (.object (.member (.first none) (plain "type" (by decide)) none none .null (.noMember none)))
    (.noItem none))
  have built := Spells.object
    (.member (.first space) (plain "sender_id" (by decide)) none none forged
    (.member (.later space none) escaped none none
      (.text (plain "chat" (by decide)))
    (.member (.later none space) (plain "content" (by decide)) space space
      (.text (plain "one" (by decide)))
    (.noMember none))))
  have spelled : Spells (.value (.object members)) text := by
    refine (congrArg (Spells _) ?_).mp built
    decide +kernel
  have law := inbound_law spelled (show Blank [0x20] from by decide) (show Blank [0x0a] from by decide)
  exact ⟨(law.1 ⟨.chat, "one"⟩).mpr ⟨⟨_, rfl, .inl rfl⟩, .inr rfl⟩, law.1⟩

end Inbound
end RoomHub.Wire
