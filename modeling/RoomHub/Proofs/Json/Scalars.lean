import Mathlib.Data.List.Basic
import Mathlib.Tactic.SplitIfs
import RoomHub.Json.Record
import RoomHub.Json.Writer
import RoomHub.Proofs.Text.Utf8

/-!
# Written texts, numbers and flags are read back

`Reads read written a`: the reader gives back `a` for what is written, and stops right behind it
(`reads_textAs`, `reads_natural`, `reads_negative`, `reads_flag`).  A number needs something behind it
that closes it (`Closes`).
-/

namespace RoomHub.Json

open Byte Text

/-! ### Texts -/

/-- A byte that stands for itself between quotes. -/
def IsPlain (b : UInt8) : Prop := b ≠ quote ∧ b ≠ backslash ∧ ¬b < 0x20

section Texts

variable {bytes rest content : List UInt8}

theorem readBytes_plain {plain : List UInt8} (h : ∀ b ∈ plain, IsPlain b)
    (more : readBytes bytes = .ok (content, rest)) :
    readBytes (plain ++ bytes) = .ok (plain ++ content, rest) := by
  induction plain with
  | nil => exact more
  | cons b plain ih =>
    obtain ⟨noQuote, noBackslash, noControl⟩ := h b List.mem_cons_self
    rw [List.cons_append, readBytes, if_neg noQuote, if_neg noBackslash, if_neg noControl,
      ih fun d mem => h d (List.mem_cons_of_mem b mem)]
    rfl

theorem readBytes_escape {escape : List UInt8} {c : Char}
    (read : readEscape (escape ++ bytes) = .ok (c, bytes))
    (more : readBytes bytes = .ok (content, rest)) :
    readBytes (backslash :: (escape ++ bytes)) = .ok (Utf8.encodeChar c ++ content, rest) := by
  rw [readBytes, if_neg (by decide), if_pos rfl]
  split
  next failed => cases failed.symm.trans read
  next found =>
    cases found.symm.trans read
    rw [more]

theorem readEscape_simple {b : UInt8} {c : Char} (simple : simpleEscape? b = some c)
    (noNumber : b ≠ letterU) : readEscape ([b] ++ bytes) = .ok (c, bytes) := by
  rw [List.singleton_append, readEscape, if_neg noNumber, simple]

theorem hexValue?_hexChar {n : Nat} (h : n < 16) :
    (hexChar n).toNat < 0x80 ∧ hexValue? (UInt8.ofNat (hexChar n).toNat) = some n := by
  decide +revert

theorem readHex_fixedHex {n : Nat} (h : n < 0x10000) :
    readHex (Utf8.encode (fixedHex 4 n) ++ bytes) = .ok (n, bytes) := by
  have digit (m : Nat) := hexValue?_hexChar (Nat.mod_lt m (show 0 < 16 by decide))
  simp only [fixedHex, List.nil_append, List.cons_append, Utf8.encode_cons, Utf8.encode_nil,
    List.append_nil, Utf8.encodeChar_of_lt (digit _).1]
  simp only [readHex, (digit _).2]
  exact congrArg (fun m => Except.ok (m, bytes)) (by omega)

/-- The number of a character is none of a surrogate. -/
theorem no_surrogate (c : Char) :
    isLowSurrogate c.toNat = false ∧ isHighSurrogate c.toNat = false := by
  have valid := Utf8.toNat_cases c
  simp only [isLowSurrogate, isHighSurrogate, Bool.and_eq_false_iff, decide_eq_false_iff_not]
  omega

theorem readEscape_control {c : Char} (control : c.toNat < 0x20) :
    readEscape (letterU :: Utf8.encode (fixedHex 4 c.toNat) ++ bytes) = .ok (c, bytes) := by
  rw [List.cons_append, readEscape, if_pos rfl, readNumbered, readHex_fixedHex (by omega)]
  simp [no_surrogate c]

theorem isPlain_of_mem_encodeChar {c : Char} (noQuote : c ≠ '"') (noBackslash : c ≠ '\\')
    (noControl : ¬c.toNat < 0x20) : ∀ b ∈ Utf8.encodeChar c, IsPlain b := by
  intro b mem
  have apart : b.toNat ≠ 0x22 ∧ b.toNat ≠ 0x5c ∧ ¬b.toNat < 0x20 := by
    by_cases ascii : c.toNat < 0x80
    · rw [Utf8.encodeChar_of_lt ascii, List.mem_singleton] at mem
      rw [mem, Utf8.toNat_byte (by omega)]
      exact ⟨fun same => noQuote (Char.toNat_inj.mp same),
        fun same => noBackslash (Char.toNat_inj.mp same), noControl⟩
    · have := Utf8.le_of_mem_encodeChar (by omega) mem
      omega
  exact ⟨fun same => apart.1 (by rw [same]; rfl), fun same => apart.2.1 (by rw [same]; rfl),
    fun less => apart.2.2 (UInt8.lt_iff_toNat_lt.mp less)⟩

/-- A character between quotes is read back. -/
theorem readBytes_escapeChar (c : Char) (more : readBytes bytes = .ok (content, rest)) :
    readBytes (Utf8.encode (escapeChar c) ++ bytes) = .ok (Utf8.encodeChar c ++ content, rest) := by
  have simple (b : UInt8) (h : simpleEscape? b = some c) (noNumber : b ≠ letterU) :
      readBytes (backslash :: ([b] ++ bytes)) = .ok (Utf8.encodeChar c ++ content, rest) :=
    readBytes_escape (readEscape_simple h noNumber) more
  unfold escapeChar
  split_ifs with h1 h2 h3 h4 h5 h6 h7 control
  · subst h1
    exact simple quote rfl (by decide)
  · subst h2
    exact simple backslash rfl (by decide)
  · subst h3
    exact simple letterB rfl (by decide)
  · subst h4
    exact simple letterF rfl (by decide)
  · subst h5
    exact simple letterN rfl (by decide)
  · subst h6
    exact simple letterR rfl (by decide)
  · subst h7
    exact simple letterT rfl (by decide)
  · exact readBytes_escape (readEscape_control control) more
  · rw [Utf8.encode_cons, Utf8.encode_nil, List.append_nil]
    exact readBytes_plain (isPlain_of_mem_encodeChar h1 h2 control) more

theorem readBytes_escaped (cs : List Char) (rest : List UInt8) :
    readBytes (Utf8.encode (cs.flatMap escapeChar) ++ quote :: rest) = .ok (Utf8.encode cs, rest) := by
  induction cs with
  | nil =>
    rw [List.flatMap_nil, Utf8.encode_nil, List.nil_append, readBytes, if_pos rfl]
  | cons c cs ih =>
    rw [List.flatMap_cons, Utf8.encode_append, List.append_assoc]
    exact readBytes_escapeChar c ih

end Texts

/-- What may follow a value: nothing, or what closes it. -/
def Closes : List UInt8 → Prop
  | [] => True
  | b :: _ => b = comma ∨ b = bracketClose ∨ b = braceClose

/-- The reader gives back `a` for what is written. -/
def Reads {α : Type} (read : Reader α) (written : List Char) (a : α) : Prop :=
  ∀ rest, Closes rest → read (Utf8.encode written ++ rest) = .ok (a, rest)

variable {α : Type}

theorem skipBlanks_cons {b : UInt8} {tail : List UInt8} (visible : isBlank b = false) :
    skipBlanks (b :: tail) = b :: tail :=
  List.dropWhile_cons_of_neg (by rw [visible]; decide)

theorem encode_writeText (s : String) (rest : List UInt8) :
    Utf8.encode (writeText s) ++ rest =
      quote :: (Utf8.encode (s.toList.flatMap escapeChar) ++ quote :: rest) := by
  have quoteByte : Utf8.encode ['"'] = [quote] := rfl
  rw [writeText, quoteChars, List.cons_append, ← List.singleton_append, Utf8.encode_append,
    Utf8.encode_append, quoteByte, List.append_assoc, List.append_assoc]
  rfl

theorem readText_escaped (s : String) (rest : List UInt8) :
    readText (Utf8.encode (s.toList.flatMap escapeChar) ++ quote :: rest) = .ok (s, rest) := by
  rw [readText, readBytes_escaped]
  dsimp only
  rw [Utf8.decode_encode]
  dsimp only
  rw [String.ofList_toList]

theorem reads_textAs (expected : String) {visit : String → Except Cause α} {s : String} {a : α}
    (visited : visit s = .ok a) : Reads (readTextAs expected visit) (writeText s) a := by
  intro rest _
  rw [encode_writeText, readTextAs, skipBlanks_cons rfl]
  dsimp only
  rw [if_pos rfl, readText_escaped]
  dsimp only
  rw [visited]

theorem reads_string (s : String) : Reads readString (writeText s) s :=
  reads_textAs "a string" rfl

theorem reads_choice {known : List (String × α)} {name : String} {a : α}
    (chosen : known.lookup name = some a) : Reads (readChoice known) (writeText name) a := by
  have named : chooseName known name = .ok a := by rw [chooseName, chosen]
  intro rest closes
  have read := reads_textAs "variant identifier" named rest closes
  rw [encode_writeText] at read ⊢
  rw [readChoice, skipBlanks_cons rfl]
  dsimp only
  rw [if_pos rfl, read]

theorem reads_flag (b : Bool) : Reads readFlag (writeFlag b) b := by
  intro rest _
  cases b <;> rfl

/-- What is written begins with this byte. -/
def Opens (b : UInt8) (written : List Char) : Prop :=
  ∃ tail, Utf8.encode written = b :: tail

theorem opens_text (s : String) : Opens quote (writeText s) :=
  ⟨_, (List.append_nil _).symm.trans (encode_writeText s [])⟩

theorem reads_optional {read : Reader α} {written : List Char} {a : α} {b : UInt8}
    (reads : Reads read written a) (opens : Opens b written) (visible : isBlank b = false)
    (noNull : b ≠ letterN) : Reads (readOptional read) written (some a) := by
  intro rest closes
  obtain ⟨tail, bytes⟩ := opens
  have found := reads rest closes
  rw [bytes, List.cons_append] at found ⊢
  rw [readOptional, skipBlanks_cons visible]
  dsimp only
  rw [if_neg noNull, found]
  rfl

/-! ### Whole numbers -/

theorem toNat_of_isDigit {c : Char} (h : c.isDigit = true) : 0x30 ≤ c.toNat ∧ c.toNat ≤ 0x39 := by
  simp only [Char.isDigit, Bool.and_eq_true, decide_eq_true_eq] at h
  exact ⟨UInt32.le_iff_toNat_le.mp h.1, UInt32.le_iff_toNat_le.mp h.2⟩

theorem encodeChar_of_isDigit {c : Char} (h : c.isDigit = true) :
    ∃ b, Utf8.encodeChar c = [b] ∧ isDigit b = true ∧ digit b = c.toNat - 0x30 := by
  obtain ⟨low, high⟩ := toNat_of_isDigit h
  refine ⟨UInt8.ofNat c.toNat, Utf8.encodeChar_of_lt (by omega), ?_, ?_⟩
  · simp only [isDigit, Bool.and_eq_true, decide_eq_true_eq, UInt8.le_iff_toNat_le]
    rw [Utf8.toNat_byte (by omega)]
    exact ⟨low, high⟩
  · rw [digit, Utf8.toNat_byte (by omega)]

theorem le_ofDigitChars (ds : List Char) (value : Nat) : value ≤ Nat.ofDigitChars 10 ds value := by
  induction ds generalizing value with
  | nil => exact Nat.le_refl _
  | cons c ds ih =>
    rw [Nat.ofDigitChars_cons]
    have := ih (10 * value + (c.toNat - '0'.toNat))
    omega

theorem gatherDigits_encode {limit : Nat} {ds : List Char} (digits : ∀ c ∈ ds, c.isDigit = true)
    {value : Nat} (fits : Nat.ofDigitChars 10 ds value ≤ limit) (count : Nat) {rest : List UInt8}
    (stop : digitAhead rest = false) :
    gatherDigits limit value count (Utf8.encode ds ++ rest) =
      (Nat.ofDigitChars 10 ds value, count + ds.length, rest) := by
  induction ds generalizing value count with
  | nil =>
    cases rest with
    | nil => rfl
    | cons b tail =>
      have other : ¬(isDigit b = true ∧ value * 10 + digit b ≤ limit) := by
        rw [show isDigit b = false from stop]
        exact fun h => nomatch h.1
      exact if_neg other
  | cons c ds ih =>
    obtain ⟨b, byte, isDig, value_eq⟩ := encodeChar_of_isDigit (digits c List.mem_cons_self)
    rw [Nat.ofDigitChars_cons] at fits ⊢
    have next : value * 10 + digit b = 10 * value + (c.toNat - '0'.toNat) := by
      rw [value_eq, Nat.mul_comm]
      rfl
    have small := le_ofDigitChars ds (10 * value + (c.toNat - '0'.toNat))
    rw [Utf8.encode_cons, byte, List.singleton_append, List.cons_append, gatherDigits,
      if_pos ⟨isDig, by omega⟩, next, ih (fun d mem => digits d (List.mem_cons_of_mem c mem)) fits,
      List.length_cons, Nat.add_assoc, Nat.add_comm 1]

/-- Only zero is written with a zero in front. -/
theorem head?_toDigits {n : Nat} (h : 0 < n) : (Nat.toDigits 10 n).head? ≠ some '0' := by
  induction n using Nat.strongRecOn with
  | ind n ih =>
    by_cases small : n < 10
    · rw [Nat.toDigits_of_lt_base small]
      intro same
      have := Nat.digitChar_eq_zero.mp (Option.some.inj same)
      omega
    · rw [Nat.toDigits_of_base_le (by decide) (by omega), List.head?_append_of_ne_nil _ Nat.toDigits_ne_nil]
      exact ih (n / 10) (by omega) (by omega)

section Numbers

variable {rest : List UInt8}

theorem digitAhead_of_closes (closes : Closes rest) : digitAhead rest = false := by
  cases rest with
  | nil => rfl
  | cons b tail =>
    rcases closes with rfl | rfl | rfl <;> rfl

theorem readTail_of_closes (closes : Closes rest) (positive : Bool) (n : Nat) :
    readTail positive n rest = .ok (wholeNumber positive n, rest) := by
  cases rest with
  | nil => rfl
  | cons b tail =>
    rcases closes with rfl | rfl | rfl <;> rfl

theorem readNumber_toDigits {n : Nat} (small : n ≤ maxSignificand) (positive : Bool)
    (closes : Closes rest) :
    readNumber positive (Utf8.encode (Nat.toDigits 10 n) ++ rest) =
      .ok (wholeNumber positive n, rest) := by
  have stop := digitAhead_of_closes closes
  by_cases isZero : n = 0
  · subst isZero
    have zeroBytes : Utf8.encode (Nat.toDigits 10 0) ++ rest = zero :: rest := rfl
    rw [zeroBytes, readNumber, if_pos rfl, if_neg (by rw [stop]; decide)]
    exact readTail_of_closes closes positive 0
  · have digits : ∀ c ∈ Nat.toDigits 10 n, c.isDigit = true :=
      fun c => Nat.isDigit_of_mem_toDigits (by decide) (by decide)
    have value : Nat.ofDigitChars 10 (Nat.toDigits 10 n) 0 = n := Nat.ofDigitChars_ten_toDigits
    have noZero := head?_toDigits (Nat.pos_of_ne_zero isZero)
    generalize Nat.toDigits 10 n = ds at digits value noZero
    cases ds with
    | nil => exact absurd value.symm isZero
    | cons c ds =>
      obtain ⟨b, byte, isDig, value_eq⟩ := encodeChar_of_isDigit (digits c List.mem_cons_self)
      have noZeroByte : b ≠ zero := by
        rintro rfl
        have low := (toNat_of_isDigit (digits c List.mem_cons_self)).1
        have least : c.toNat = 0x30 := by
          have : digit zero = 0 := rfl
          omega
        exact noZero (congrArg some (Char.toNat_inj.mp least))
      have initial : digit b = 10 * 0 + (c.toNat - '0'.toNat) := by
        show digit b = 10 * 0 + (c.toNat - 0x30)
        omega
      rw [Nat.ofDigitChars_cons, ← initial] at value
      rw [Utf8.encode_cons, byte, List.singleton_append, List.cons_append, readNumber,
        if_neg noZeroByte, if_pos isDig,
        gatherDigits_encode (fun d mem => digits d (List.mem_cons_of_mem c mem)) (by omega) 0 stop,
        value]
      dsimp only
      rw [if_neg (by rw [stop]; decide)]
      exact readTail_of_closes closes positive n

theorem apart_of_isDigit {b c : UInt8} (h : isDigit b = true) (other : isDigit c = false) : b ≠ c :=
  fun same => by simp [← same, h] at other

theorem visible_of_isDigit {b : UInt8} (h : isDigit b = true) : isBlank b = false := by
  simp only [Byte.isBlank, Bool.or_eq_false_iff, beq_eq_false_iff_ne]
  exact ⟨⟨⟨apart_of_isDigit h rfl, apart_of_isDigit h rfl⟩, apart_of_isDigit h rfl⟩,
    apart_of_isDigit h rfl⟩

theorem readNumber_natural {n : Nat} (small : n < Decimal.twoTo 64) (closes : Closes rest) :
    ∃ b tail, Utf8.encode (writeInteger n) ++ rest = b :: tail ∧ isDigit b = true ∧
      readNumber true (b :: tail) = .ok (.natural n, rest) := by
  have written : writeInteger n = Nat.toDigits 10 n := by
    rw [writeInteger, show toString (n : Int) = toString n from rfl,
      Nat.toString_eq_ofList_toDigits, String.toList_ofList]
  have read := readNumber_toDigits (Nat.le_sub_one_of_lt small) true closes
  have digits : ∀ c ∈ Nat.toDigits 10 n, c.isDigit = true :=
    fun c => Nat.isDigit_of_mem_toDigits (by decide) (by decide)
  have nonempty : Nat.toDigits 10 n ≠ [] := Nat.toDigits_ne_nil
  rw [written]
  generalize Nat.toDigits 10 n = ds at read digits nonempty
  cases ds with
  | nil => exact absurd rfl nonempty
  | cons c ds =>
    obtain ⟨b, byte, isDig, -⟩ := encodeChar_of_isDigit (digits c List.mem_cons_self)
    rw [Utf8.encode_cons, byte, List.singleton_append, List.cons_append] at read ⊢
    exact ⟨b, _, rfl, isDig, read⟩

theorem readNumber_negative {n : Nat} (negative : 0 < n) (small : n ≤ Decimal.twoTo 63)
    (closes : Closes rest) :
    ∃ tail, Utf8.encode (writeInteger (-n)) ++ rest = minus :: tail ∧
      readNumber false tail = .ok (.negative n, rest) := by
  have written : writeInteger (-n) = '-' :: Nat.toDigits 10 n := by
    obtain ⟨m, rfl⟩ := Nat.exists_eq_succ_of_ne_zero (Nat.ne_of_gt negative)
    rw [writeInteger, show toString (-((m.succ : Nat) : Int)) = "-" ++ toString m.succ from rfl,
      Nat.toString_eq_ofList_toDigits, String.toList_append]
    exact congrArg ('-' :: ·) String.toList_ofList
  have inRange : n ≤ maxSignificand := Nat.le_trans small (by decide)
  have whole : wholeNumber false n = .negative n := by
    rw [wholeNumber, if_neg (by decide), if_neg (by omega)]
  have minusByte : Utf8.encodeChar '-' = [minus] := rfl
  rw [written, Utf8.encode_cons, minusByte, List.singleton_append, List.cons_append]
  exact ⟨_, rfl, (readNumber_toDigits inRange false closes).trans (by rw [whole])⟩

theorem reads_natural (expected : String) {visit : Number → Except Cause α} {n : Nat}
    (small : n < Decimal.twoTo 64) {a : α} (visited : visit (.natural n) = .ok a) :
    Reads (readNumberAs expected visit) (writeInteger n) a := by
  intro rest closes
  obtain ⟨b, tail, bytes, isDig, read⟩ := readNumber_natural small closes
  rw [bytes, readNumberAs, skipBlanks_cons (visible_of_isDigit isDig)]
  dsimp only
  rw [if_neg (apart_of_isDigit isDig (by decide)), if_pos isDig, read]
  dsimp only
  rw [visited]

theorem reads_negative (expected : String) {visit : Number → Except Cause α} {n : Nat}
    (negative : 0 < n) (small : n ≤ Decimal.twoTo 63) {a : α} (visited : visit (.negative n) = .ok a) :
    Reads (readNumberAs expected visit) (writeInteger (-n)) a := by
  intro rest closes
  obtain ⟨tail, bytes, read⟩ := readNumber_negative negative small closes
  rw [bytes, readNumberAs, skipBlanks_cons rfl]
  dsimp only
  rw [if_pos rfl, read]
  dsimp only
  rw [visited]

theorem reads_signed64 {n : Int} (low : -(Decimal.twoTo 63 : Int) ≤ n) (high : n < Decimal.twoTo 63) :
    Reads readSigned64 (writeInteger n) n := by
  have double : Decimal.twoTo 63 < Decimal.twoTo 64 := by decide
  by_cases negative : n < 0
  · have size : n = -(n.natAbs : Int) := by omega
    rw [size]
    exact reads_negative "i64" (by omega) (by omega) rfl
  · have size : n = (n.natAbs : Int) := by omega
    rw [size]
    exact reads_natural "i64" (by omega) (if_pos (by omega))

theorem reads_unsigned64 {n : Nat} (small : n < Decimal.twoTo 64) :
    Reads readUnsigned64 (writeInteger n) n :=
  reads_natural "usize" small rfl

end Numbers

end RoomHub.Json
