import RoomHub.Proofs.Json.Grammar
import RoomHub.Proofs.Json.Passing
import RoomHub.Proofs.Json.Scalars

/-!
# Readers on whatever is well formed

A text is read as what it says, however it is written (`readText_spelled`), and every well formed
value can be passed over (`skipValue_spelled`).
-/

namespace RoomHub.Json

open Byte Text

variable {bytes rest blanks : List UInt8}

theorem skipBlanks_append (blank : Blank blanks) (bytes : List UInt8) :
    skipBlanks (blanks ++ bytes) = skipBlanks bytes :=
  List.dropWhile_append_of_pos blank

/-! ### Texts -/

theorem hexValue?_of_isHexDigit {b : UInt8} {n : Nat} (digit : IsHexDigit b n) :
    hexValue? b = some n := by
  unfold hexValue?
  obtain ⟨small, same⟩ | ⟨low, high, same | same⟩ := digit
  · rw [if_pos (by omega)]
    exact congrArg some (by omega)
  · rw [if_neg (by omega), if_pos (by omega)]
    exact congrArg some (by omega)
  · rw [if_neg (by omega), if_neg (by omega), if_pos (by omega)]
    exact congrArg some (by omega)

theorem readHex_of_isHex {n : Nat} {digits : List UInt8} (hex : IsHex n digits)
    (bytes : List UInt8) : readHex (digits ++ bytes) = .ok (n, bytes) := by
  obtain ⟨first, second, third, fourth⟩ := hex
  simp only [List.cons_append, List.nil_append, readHex, hexValue?_of_isHexDigit first,
    hexValue?_of_isHexDigit second, hexValue?_of_isHexDigit third, hexValue?_of_isHexDigit fourth]

theorem simpleEscape?_of_mem {b : UInt8} {c : Char} (known : (b, c) ∈ shortEscapes) :
    simpleEscape? b = some c ∧ b ≠ letterU := by
  simp only [shortEscapes, List.mem_cons, Prod.mk.injEq, List.not_mem_nil, or_false] at known
  rcases known with ⟨rfl, rfl⟩ | ⟨rfl, rfl⟩ | ⟨rfl, rfl⟩ | ⟨rfl, rfl⟩ | ⟨rfl, rfl⟩ | ⟨rfl, rfl⟩ |
    ⟨rfl, rfl⟩ | ⟨rfl, rfl⟩ <;> decide

theorem readNumbered_of_isHex {c : Char} {digits : List UInt8} (hex : IsHex c.toNat digits)
    (bytes : List UInt8) : readNumbered (digits ++ bytes) = .ok (c, bytes) := by
  rw [readNumbered, readHex_of_isHex hex]
  simp [no_surrogate c]

/-- The halves of a character beyond U+FFFF are joined to it. -/
theorem joinSurrogates_halves {c : Char} (beyond : 0x10000 ≤ c.toNat) :
    joinSurrogates (0xd800 + (c.toNat - 0x10000) / 1024) (0xdc00 + (c.toNat - 0x10000) % 1024) =
      c := by
  have number : (0xd800 + (c.toNat - 0x10000) / 1024 - 0xd800) * 1024 +
      (0xdc00 + (c.toNat - 0x10000) % 1024 - 0xdc00) + 0x10000 = c.toNat := by omega
  rw [joinSurrogates, number, Char.ofNat_toNat]

theorem surrogates_of_halves {c : Char} (beyond : 0x10000 ≤ c.toNat) :
    isHighSurrogate (0xd800 + (c.toNat - 0x10000) / 1024) = true ∧
      isLowSurrogate (0xd800 + (c.toNat - 0x10000) / 1024) = false ∧
      isLowSurrogate (0xdc00 + (c.toNat - 0x10000) % 1024) = true := by
  have valid := Utf8.toNat_cases c
  simp only [isLowSurrogate, isHighSurrogate, Bool.and_eq_true, Bool.and_eq_false_iff,
    decide_eq_true_eq, decide_eq_false_iff_not]
  omega

theorem readLowSurrogate_of_isHex {high low : Nat} {digits : List UInt8} (hex : IsHex low digits)
    (isLow : isLowSurrogate low = true) (bytes : List UInt8) :
    readLowSurrogate high (backslash :: letterU :: (digits ++ bytes)) =
      .ok (joinSurrogates high low, bytes) := by
  refine (readLowSurrogate.eq_1 high (digits ++ bytes)).trans ?_
  rw [readHex_of_isHex hex]
  exact if_pos isLow

theorem readNumbered_of_pair {c : Char} {high low : List UInt8} (beyond : 0x10000 ≤ c.toNat)
    (first : IsHex (0xd800 + (c.toNat - 0x10000) / 1024) high)
    (second : IsHex (0xdc00 + (c.toNat - 0x10000) % 1024) low) (bytes : List UInt8) :
    readNumbered (high ++ backslash :: letterU :: (low ++ bytes)) = .ok (c, bytes) := by
  obtain ⟨isHigh, noLow, isLow⟩ := surrogates_of_halves beyond
  rw [readNumbered, readHex_of_isHex first]
  dsimp only
  rw [noLow, isHigh, if_neg Bool.false_ne_true, if_pos rfl, readLowSurrogate_of_isHex second isLow,
    joinSurrogates_halves beyond]

theorem readBytes_spelledChar {c : Char} {spelled content : List UInt8} (spells : SpellsChar c spelled)
    (more : readBytes bytes = .ok (content, rest)) :
    readBytes (spelled ++ bytes) = .ok (Utf8.encodeChar c ++ content, rest) := by
  have numbered {digits : List UInt8} (read : readNumbered (digits ++ bytes) = .ok (c, bytes)) :
      readBytes (backslash :: (letterU :: digits ++ bytes)) =
        .ok (Utf8.encodeChar c ++ content, rest) :=
    readBytes_escape (by rw [List.cons_append, readEscape, if_pos rfl, read]) more
  cases spells with
  | plain noQuote noBackslash noControl =>
    exact readBytes_plain (isPlain_of_mem_encodeChar noQuote noBackslash (Nat.not_lt.mpr noControl)) more
  | @short b known =>
    obtain ⟨simple, noNumber⟩ := simpleEscape?_of_mem known
    exact readBytes_escape (readEscape_simple simple noNumber) more
  | numbered hex => exact numbered (readNumbered_of_isHex hex bytes)
  | pair beyond first second =>
    refine numbered ?_
    rw [List.append_assoc]
    exact readNumbered_of_pair beyond first second bytes

theorem readBytes_spelled {cs : List Char} {spelled : List UInt8} (spells : SpellsChars cs spelled)
    (rest : List UInt8) : readBytes (spelled ++ quote :: rest) = .ok (Utf8.encode cs, rest) := by
  induction spells with
  | nil => rw [List.nil_append, readBytes, if_pos rfl, Utf8.encode_nil]
  | cons first _ ih =>
    rw [List.append_assoc, Utf8.encode_cons]
    exact readBytes_spelledChar first ih

/-- A text is read as what it says, however it is written. -/
theorem readText_spelled {s : String} {spelled : List UInt8} (spells : SpellsChars s.toList spelled)
    (rest : List UInt8) : readText (spelled ++ quote :: rest) = .ok (s, rest) := by
  rw [readText, readBytes_spelled spells]
  dsimp only
  rw [Utf8.decode_encode]
  dsimp only
  rw [String.ofList_toList]

/-! ### Numbers -/

/-- What may follow a value: blanks, and then what closes it. -/
def Follows (rest : List UInt8) : Prop := Closes (skipBlanks rest)

/-- What follows a number cannot be taken for a part of it. -/
theorem first_of_follows {b : UInt8} (follows : Follows (b :: rest)) :
    isDigit b = false ∧ b ≠ point ∧ b ≠ letterE ∧ b ≠ capitalE := by
  cases blank : Byte.isBlank b with
  | true =>
    simp only [Byte.isBlank, Bool.or_eq_true, beq_iff_eq] at blank
    rcases blank with ((rfl | rfl) | rfl) | rfl <;> decide
  | false =>
    rw [Follows, skipBlanks_cons blank] at follows
    rcases follows with rfl | rfl | rfl <;> decide

theorem dropDigits_append {digits : List UInt8} (isDigits : ∀ b ∈ digits, isDigit b = true)
    (stop : digitAhead rest = false) : (digits ++ rest).dropWhile isDigit = rest := by
  rw [List.dropWhile_append_of_pos isDigits]
  cases rest with
  | nil => rfl
  | cons b tail => exact List.dropWhile_cons_of_neg (by rw [show isDigit b = false from stop]; decide)

theorem digitAhead_of_follows (follows : Follows rest) : digitAhead rest = false := by
  cases rest with
  | nil => rfl
  | cons b tail => exact (first_of_follows follows).1

theorem cons_of_isDigits {digits : List UInt8} (isDigits : IsDigits digits) :
    ∃ b more, digits = b :: more ∧ isDigit b = true ∧ ∀ d ∈ more, isDigit d = true := by
  obtain ⟨some, all⟩ := isDigits
  cases digits with
  | nil => exact absurd rfl some
  | cons b more =>
    exact ⟨b, more, rfl, all b List.mem_cons_self, fun d mem => all d (List.mem_cons_of_mem b mem)⟩

/-- A sign in front of the digits of an exponent makes no difference. -/
theorem skipExponent_signed {sign : List UInt8} (isSign : sign = [] ∨ sign = [plus] ∨ sign = [minus])
    {b : UInt8} (first : isDigit b = true) (rest : List UInt8) :
    skipExponent (sign ++ b :: rest) = .ok (rest.dropWhile isDigit) := by
  rcases isSign with rfl | rfl | rfl
  · have noPlus : b ≠ plus := apart_of_isDigit first rfl
    have noMinus : b ≠ minus := apart_of_isDigit first rfl
    rw [List.nil_append]
    unfold skipExponent
    split
    next same => exact absurd (List.cons.inj same).1 noPlus
    next same => exact absurd (List.cons.inj same).1 noMinus
    next => exact if_pos first
  · exact if_pos first
  · exact if_pos first

theorem skipExponent_spelled {sign digits : List UInt8}
    (isSign : sign = [] ∨ sign = [plus] ∨ sign = [minus]) (isDigits : IsDigits digits)
    (stop : digitAhead rest = false) : skipExponent (sign ++ (digits ++ rest)) = .ok rest := by
  obtain ⟨b, more, rfl, first, others⟩ := cons_of_isDigits isDigits
  rw [List.cons_append, skipExponent_signed isSign first, dropDigits_append others stop]

theorem skipScale_spelled {scale : List UInt8} (isScale : IsScale scale) (follows : Follows rest) :
    skipScale (scale ++ rest) = .ok rest := by
  obtain rfl | ⟨letter, sign, digits, isLetter, isSign, isDigits, rfl⟩ := isScale
  · rw [List.nil_append]
    unfold skipScale
    split
    next => exact absurd rfl (first_of_follows follows).2.2.1
    next => exact absurd rfl (first_of_follows follows).2.2.2
    next => rfl
  · have passed := skipExponent_spelled isSign isDigits (digitAhead_of_follows follows)
    rw [← List.append_assoc] at passed
    rcases isLetter with rfl | rfl
    · exact passed
    · exact passed

/-- No digit comes where a fraction or an exponent may. -/
theorem digitAhead_scale {scale : List UInt8} (isScale : IsScale scale) (follows : Follows rest) :
    digitAhead (scale ++ rest) = false := by
  obtain rfl | ⟨letter, sign, digits, isLetter, -, -, rfl⟩ := isScale
  · exact digitAhead_of_follows follows
  · rcases isLetter with rfl | rfl <;> rfl

theorem skipFraction_spelled {fraction scale : List UInt8} (isFraction : IsFraction fraction)
    (isScale : IsScale scale) (follows : Follows rest) :
    skipFraction (fraction ++ (scale ++ rest)) = .ok rest := by
  have passed := skipScale_spelled isScale follows
  obtain rfl | ⟨digits, isDigits, rfl⟩ := isFraction
  · have noPoint {b : UInt8} {tail : List UInt8} (ahead : scale ++ rest = b :: tail) : b ≠ point := by
      obtain rfl | ⟨letter, sign, digits, isLetter, -, -, rfl⟩ := isScale
      · rw [List.nil_append] at ahead
        exact (first_of_follows (ahead ▸ follows)).2.1
      · cases ahead
        rcases isLetter with rfl | rfl <;> decide
    rw [List.nil_append]
    unfold skipFraction
    split
    next ahead => exact absurd rfl (noPoint ahead)
    next ahead => exact absurd rfl (noPoint ahead)
    next => exact passed
  · obtain ⟨b, more, rfl, first, others⟩ := cons_of_isDigits isDigits
    have opened : skipFraction (point :: b :: (more ++ (scale ++ rest))) =
        skipScale ((more ++ (scale ++ rest)).dropWhile isDigit) := if_pos first
    rw [List.cons_append, List.cons_append, opened,
      dropDigits_append others (digitAhead_scale isScale follows), passed]

/-- Neither does one where the digits before the point end. -/
theorem digitAhead_fraction {fraction scale : List UInt8} (isFraction : IsFraction fraction)
    (isScale : IsScale scale) (follows : Follows rest) :
    digitAhead (fraction ++ (scale ++ rest)) = false := by
  obtain rfl | ⟨digits, -, rfl⟩ := isFraction
  · rw [List.nil_append]
    exact digitAhead_scale isScale follows
  · rfl

/-- Digits without a sign are a number, whose first digit is the first byte. -/
theorem skipNumber_spelled {whole fraction scale : List UInt8} (isWhole : IsWhole whole)
    (isFraction : IsFraction fraction) (isScale : IsScale scale) (follows : Follows rest) :
    ∃ b tail, whole ++ (fraction ++ (scale ++ rest)) = b :: tail ∧ isDigit b = true ∧
      skipNumber (b :: tail) = .ok rest := by
  have passed := skipFraction_spelled isFraction isScale follows
  have stop := digitAhead_fraction isFraction isScale follows
  generalize fraction ++ (scale ++ rest) = behind at passed stop
  obtain rfl | ⟨isDigits, noZero⟩ := isWhole
  · refine ⟨zero, behind, rfl, rfl, ?_⟩
    cases behind with
    | nil => exact passed
    | cons d tail =>
      rw [skipNumber, if_pos rfl, if_neg (by rw [show isDigit d = false from stop]; decide)]
      exact passed
  · obtain ⟨b, more, rfl, first, others⟩ := cons_of_isDigits isDigits
    refine ⟨b, more ++ behind, rfl, first, ?_⟩
    unfold skipNumber
    dsimp only
    rw [if_neg fun same => noZero (congrArg _ same), if_pos first, dropDigits_append others stop,
      passed]

/-! ### Values -/

/-- The bytes with which a value of this kind can begin. -/
def Datum.Opens : Datum → UInt8 → Prop
  | .null, b => b = letterN
  | .flag true, b => b = letterT
  | .flag false, b => b = letterF
  | .number _, b => b = minus ∨ isDigit b = true
  | .text _, b => b = quote
  | .array _, b => b = bracketOpen
  | .object _, b => b = braceOpen

/-- What a number begins with is none of the marks of JSON. -/
theorem ne_of_opens_number {b c : UInt8} (opens : b = minus ∨ isDigit b = true) (noSign : c ≠ minus)
    (noDigit : isDigit c = false) : b ≠ c := by
  rcases opens with rfl | first
  · exact noSign.symm
  · exact apart_of_isDigit first noDigit

theorem isBlank_of_opens {v : Datum} {b : UInt8} (opens : v.Opens b) : Byte.isBlank b = false := by
  cases v with
  | flag x => cases x <;> exact opens ▸ rfl
  | number => exact opens.elim (fun same => same ▸ rfl) visible_of_isDigit
  | _ => exact opens ▸ rfl

theorem opens_of_isNumber {digits : List UInt8} (number : IsNumber digits) (follows : Follows rest) :
    ∃ b tail, digits ++ rest = b :: tail ∧ (b = minus ∨ isDigit b = true) ∧
      skipScalar (b :: tail) = .ok rest := by
  obtain ⟨isSign, isWhole, isFraction, isScale⟩ := number
  obtain ⟨b, tail, bytes, first, passed⟩ := skipNumber_spelled isWhole isFraction isScale follows
  simp only [List.append_assoc, bytes]
  rcases isSign with rfl | rfl
  · refine ⟨b, tail, rfl, .inr first, ?_⟩
    have apart (c : UInt8) (other : isDigit c = false) : b ≠ c := apart_of_isDigit first other
    simp only [skipScalar, if_neg (apart letterN rfl), if_neg (apart letterT rfl),
      if_neg (apart letterF rfl), if_neg (apart minus rfl), if_pos first, passed]
  · exact ⟨minus, b :: tail, rfl, .inl rfl, passed⟩

theorem opens_of_spells {v : Datum} {text : List UInt8} (spelled : Spells (.value v) text) :
    ∃ b tail, text = b :: tail ∧ v.Opens b := by
  cases spelled with
  | number number =>
    obtain ⟨b, tail, bytes, opens, -⟩ := opens_of_isNumber number (show Follows [] from trivial)
    exact ⟨b, tail, (List.append_nil _).symm.trans bytes, opens⟩
  | _ => exact ⟨_, _, rfl, rfl⟩

/-- After blanks the value comes. -/
theorem skipBlanks_spelled {v : Datum} {text : List UInt8} (spelled : Spells (.value v) text)
    (blank : Blank blanks) (rest : List UInt8) :
    skipBlanks (blanks ++ (text ++ rest)) = text ++ rest := by
  obtain ⟨b, tail, rfl, opens⟩ := opens_of_spells spelled
  rw [skipBlanks_append blank, List.cons_append, skipBlanks_cons (isBlank_of_opens opens)]

/-! ### Passing over values -/

theorem skipNested_scalar {stack : List Bracket} {b : UInt8} {tail : List UInt8}
    (ahead : skipBlanks bytes = b :: tail) (noArray : b ≠ bracketOpen) (noObject : b ≠ braceOpen)
    (passed : skipScalar (b :: tail) = .ok rest) :
    skipNested stack .value bytes = skipNested stack (.closer true) rest := by
  rw [skipNested_value, ahead]
  simp only [if_neg noArray, if_neg noObject, passed]

/-- What comes after a value or an opening bracket, unless the text ends there. -/
theorem skipNested_closer {top : Bracket} {outer : List Bracket} {afterValue : Bool} {b : UInt8}
    {tail : List UInt8} (ahead : skipBlanks bytes = b :: tail) :
    skipNested (top :: outer) (.closer afterValue) bytes =
      if b = comma ∧ afterValue = true then
        match top with
        | .array => skipNested (top :: outer) .value tail
        | .object =>
          match skipName tail with
          | .error f => .error f
          | .ok rest => skipNested (top :: outer) .value rest
      else if b = top.closer then skipNested outer (.closer true) tail
      else if afterValue then .error (.ahead top.expectedEnd (b :: tail))
      else
        match top with
        | .array => skipNested (top :: outer) .value (b :: tail)
        | .object =>
          match skipName (b :: tail) with
          | .error f => .error f
          | .ok rest => skipNested (top :: outer) .value rest := by
  conv_lhs => rw [skipNested]
  dsimp only
  split
  next none => cases none.symm.trans ahead
  next c more same =>
    cases same.symm.trans ahead
    cases top with
    | array => rfl
    | object =>
      dsimp only
      split_ifs
      · split <;> simp only [*]
      · rfl
      · rfl
      · split <;> simp only [*]

theorem ne_closer_of_opens {v : Datum} {b : UInt8} (opens : v.Opens b) (top : Bracket) :
    b ≠ top.closer := by
  rintro rfl
  cases v with
  | flag x => cases x <;> cases top <;> cases opens
  | number => cases top <;> exact ne_of_opens_number opens (by decide) rfl rfl
  | _ => cases top <;> cases opens

theorem readColon_spelled (blank : Blank blanks) (rest : List UInt8) :
    readColon (blanks ++ colon :: rest) = .ok rest := by
  rw [readColon, skipBlanks_append blank, skipBlanks_cons rfl]
  exact if_pos rfl

/-- A name and the colon behind it are passed over. -/
theorem skipName_spelled {name : String} {key before : List UInt8} (blank : Blank blanks)
    (named : SpellsChars name.toList key) (blankBefore : Blank before) (rest : List UInt8) :
    skipName (blanks ++ quote :: (key ++ quote :: (before ++ colon :: rest))) = .ok rest := by
  have passed := skipText_of_readText
    (readText_spelled named (before ++ colon :: rest))
  rw [skipName, skipBlanks_append blank, skipBlanks_cons rfl]
  dsimp only
  rw [if_pos rfl, passed]
  exact readColon_spelled blankBefore rest

theorem skipBlanks_lead {lead : List UInt8} (leads : Lead false lead) (bytes : List UInt8) :
    ∃ after, Blank after ∧ skipBlanks (lead ++ bytes) = comma :: (after ++ bytes) := by
  cases leads with
  | @later before after blankBefore blankAfter =>
    refine ⟨after, blankAfter, ?_⟩
    rw [List.append_assoc, skipBlanks_append blankBefore, List.cons_append, skipBlanks_cons rfl]

theorem follows_lead {lead : List UInt8} (leads : Lead false lead) (bytes : List UInt8) :
    Follows (lead ++ bytes) := by
  obtain ⟨after, -, ahead⟩ := skipBlanks_lead leads bytes
  rw [Follows, ahead]
  exact .inl rfl

theorem follows_items {items : List Datum} (spelled : Spells (.items false items) bytes)
    (rest : List UInt8) : Follows (bytes ++ bracketClose :: rest) := by
  cases spelled with
  | noItem blank =>
    rw [Follows, skipBlanks_append blank, skipBlanks_cons rfl]
    exact .inr (.inl rfl)
  | item leads =>
    rw [List.append_assoc]
    exact follows_lead leads _

/-- After a member comes the closing bracket or a comma. -/
theorem skipBlanks_members {members : List (String × Datum)}
    (spelled : Spells (.members false members) bytes) (rest : List UInt8) :
    members = [] ∧ skipBlanks (bytes ++ braceClose :: rest) = braceClose :: rest ∨
      members ≠ [] ∧ ∃ tail, skipBlanks (bytes ++ braceClose :: rest) = comma :: tail := by
  cases spelled with
  | noMember blank => exact .inl ⟨rfl, (skipBlanks_append blank _).trans (skipBlanks_cons rfl)⟩
  | member leads =>
    rw [List.append_assoc]
    obtain ⟨after, -, ahead⟩ := skipBlanks_lead leads _
    exact .inr ⟨nofun, _, ahead⟩

theorem follows_members {members : List (String × Datum)}
    (spelled : Spells (.members false members) bytes) (rest : List UInt8) :
    Follows (bytes ++ braceClose :: rest) := by
  rw [Follows]
  obtain ⟨-, ahead⟩ | ⟨-, tail, ahead⟩ := skipBlanks_members spelled rest
  · rw [ahead]
    exact .inr (.inr rfl)
  · rw [ahead]
    exact .inl rfl

/-- What is written can be passed over inside any brackets: a value, or all up to the closing
bracket. -/
def Passed : Form → List UInt8 → Prop
  | .value _, text => ∀ (stack : List Bracket) (blanks rest : List UInt8), Blank blanks →
      Follows rest →
      skipNested stack .value (blanks ++ (text ++ rest)) = skipNested stack (.closer true) rest
  | .items first _, inside => ∀ (stack : List Bracket) (rest : List UInt8),
      skipNested (.array :: stack) (.closer !first) (inside ++ bracketClose :: rest) =
        skipNested stack (.closer true) rest
  | .members first _, inside => ∀ (stack : List Bracket) (rest : List UInt8),
      skipNested (.object :: stack) (.closer !first) (inside ++ braceClose :: rest) =
        skipNested stack (.closer true) rest

theorem passed_of_skipScalar {v : Datum} {text : List UInt8} (spelled : Spells (.value v) text)
    (passes : ∀ {rest : List UInt8}, Follows rest → ∃ b tail, text ++ rest = b :: tail ∧
      b ≠ bracketOpen ∧ b ≠ braceOpen ∧ skipScalar (b :: tail) = .ok rest) :
    Passed (.value v) text := by
  intro stack blanks rest blank follows
  obtain ⟨b, tail, ahead, noArray, noObject, passed⟩ := passes follows
  exact skipNested_scalar ((skipBlanks_spelled spelled blank rest).trans ahead) noArray noObject passed

theorem passed_item {first : Bool} {v : Datum} {items : List Datum} {lead text more : List UInt8}
    (leads : Lead first lead) (value : Spells (.value v) text) (rest : Spells (.items false items) more)
    (passedValue : Passed (.value v) text) (passedRest : Passed (.items false items) more) :
    Passed (.items first (v :: items)) (lead ++ (text ++ more)) := by
  intro stack tail
  rw [List.append_assoc, List.append_assoc]
  have follows := follows_items rest tail
  refine Eq.trans ?_ (passedRest stack tail)
  generalize more ++ bracketClose :: tail = behind at follows
  cases first with
  | false =>
    obtain ⟨after, blank, ahead⟩ := skipBlanks_lead leads (text ++ behind)
    rw [skipNested_closer ahead, if_pos ⟨rfl, rfl⟩]
    exact passedValue _ after behind blank follows
  | true =>
    cases leads with
    | first blank =>
      obtain ⟨b, start, rfl, opens⟩ := opens_of_spells value
      have ahead := skipBlanks_spelled value blank behind
      rw [List.cons_append] at ahead
      rw [List.cons_append, skipNested_closer ahead, if_neg nofun,
        if_neg (ne_closer_of_opens opens .array), if_neg (by decide)]
      exact passedValue (.array :: stack) [] behind nofun follows

theorem passed_member {first : Bool} {name : String} {v : Datum} {members : List (String × Datum)}
    {lead key before after text more : List UInt8} (leads : Lead first lead)
    (named : SpellsChars name.toList key) (blankBefore : Blank before) (blankAfter : Blank after)
    (rest : Spells (.members false members) more) (passedValue : Passed (.value v) text)
    (passedRest : Passed (.members false members) more) :
    Passed (.members first ((name, v) :: members))
      (lead ++ quote :: (key ++ quote :: (before ++ colon :: (after ++ (text ++ more))))) := by
  intro stack tail
  have follows := follows_members rest tail
  have read := passedValue (.object :: stack) after _ blankAfter follows
  refine Eq.trans ?_ (read.trans (passedRest stack tail))
  simp only [List.append_assoc, List.cons_append]
  generalize after ++ (text ++ (more ++ braceClose :: tail)) = behind
  cases first with
  | false =>
    obtain ⟨blanks, blank, ahead⟩ := skipBlanks_lead leads
      (quote :: (key ++ quote :: (before ++ colon :: behind)))
    rw [skipNested_closer ahead, if_pos ⟨rfl, rfl⟩]
    dsimp only
    rw [skipName_spelled blank named blankBefore]
  | true =>
    cases leads with
    | first blank =>
      have ahead := (skipBlanks_append blank (quote :: (key ++ quote :: (before ++ colon :: behind)))).trans
        (skipBlanks_cons rfl)
      have passed := skipName_spelled (show Blank [] from nofun) named blankBefore behind
      rw [skipNested_closer ahead, if_neg nofun, if_neg (by decide)]
      dsimp only
      rw [List.nil_append] at passed
      rw [if_neg (by decide), passed]

theorem skipNested_close (top : Bracket) (outer : List Bracket) (afterValue : Bool)
    (blank : Blank blanks) (rest : List UInt8) :
    skipNested (top :: outer) (.closer afterValue) (blanks ++ top.closer :: rest) =
      skipNested outer (.closer true) rest := by
  have ahead : skipBlanks (blanks ++ top.closer :: rest) = top.closer :: rest :=
    (skipBlanks_append blank _).trans (skipBlanks_cons (by cases top <;> rfl))
  have other : ¬(top.closer = comma ∧ afterValue = true) := by
    cases top <;> exact fun both => absurd both.1 (by decide)
  rw [skipNested_closer ahead, if_neg other, if_pos rfl]

theorem passed_of_spells {form : Form} {text : List UInt8} (spelled : Spells form text) :
    Passed form text := by
  -- On the way in which it is written; `Passed` leaves open which brackets stand around it.
  induction spelled with
  | null => exact passed_of_skipScalar .null fun _ => ⟨_, _, rfl, by decide, by decide, rfl⟩
  | yes => exact passed_of_skipScalar .yes fun _ => ⟨_, _, rfl, by decide, by decide, rfl⟩
  | no => exact passed_of_skipScalar .no fun _ => ⟨_, _, rfl, by decide, by decide, rfl⟩
  | number number =>
    refine passed_of_skipScalar (.number number) fun follows => ?_
    obtain ⟨b, tail, bytes, opens, passed⟩ := opens_of_isNumber number follows
    exact ⟨b, tail, bytes, ne_of_opens_number opens (by decide) rfl,
      ne_of_opens_number opens (by decide) rfl, passed⟩
  | @text s bytes named =>
    refine passed_of_skipScalar (.text named) @fun rest _ =>
      ⟨quote, bytes ++ quote :: rest, ?_, by decide, by decide, ?_⟩
    · simp
    · exact skipText_of_readText (readText_spelled named rest)
  | @array items bytes inside ih =>
    intro stack blanks rest blank follows
    rw [skipNested_value, skipBlanks_spelled (.array inside) blank, List.cons_append,
      List.append_assoc]
    exact ih stack rest
  | @object members bytes inside ih =>
    intro stack blanks rest blank follows
    rw [skipNested_value, skipBlanks_spelled (.object inside) blank, List.cons_append,
      List.append_assoc]
    exact ih stack rest
  | noItem blank => exact fun stack rest => skipNested_close .array stack _ blank rest
  | noMember blank => exact fun stack rest => skipNested_close .object stack _ blank rest
  | item leads value rest valueIh restIh => exact passed_item leads value rest valueIh restIh
  | member leads named blankBefore blankAfter _ rest valueIh restIh =>
    exact passed_member leads named blankBefore blankAfter rest valueIh restIh

/-- Every well formed value can be passed over, however deep it is. -/
theorem skipValue_spelled {v : Datum} {text : List UInt8} (spelled : Spells (.value v) text)
    (blank : Blank blanks) (follows : Follows rest) :
    skipValue (blanks ++ (text ++ rest)) = .ok rest := by
  have passed := passed_of_spells spelled [] blanks rest blank follows
  rw [skipValue, passed, skipNested]

end RoomHub.Json
