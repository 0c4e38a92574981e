import RoomHub.Proofs.Json.Scalars
import RoomHub.Proofs.Json.Scan

/-!
# Where readers of words, numbers and texts stop

Each reader lands: if it succeeds, the bytes that it has taken lead to where it should be, and if it
fails, they lead no further out.  A word is read after its first letter (`lands_word`), a number after
its sign (`lands_signed`) or from its first digit on (`lands_digits`), and a text after its opening
quote (`lands_readText`).
-/

namespace RoomHub.Json

open Byte Text Spot

variable {d : Nat} {bytes : List UInt8}

/-! ### Blanks and digits -/

theorem step_digit {b : UInt8} (digits : isDigit b = true) :
    (outside d).step b = .ok (outside d) := by
  have other {c : UInt8} (h : isDigit c = false) : b ≠ c := apart_of_isDigit digits h
  refine step_eq_ok_iff.mpr ⟨?_, .inl ⟨rfl, ?_⟩⟩
  · simp [Mode.next, digits, other (c := quote) rfl, other (c := letterN) rfl,
      other (c := letterT) rfl, other (c := letterF) rfl, other (c := letterE) rfl,
      other (c := capitalE) rfl, other (c := minus) rfl, other (c := point) rfl]
  · simp [depthAfter, other (c := bracketOpen) rfl, other (c := braceOpen) rfl,
      other (c := bracketClose) rfl, other (c := braceClose) rfl, other (c := comma) rfl]

theorem goes_dropWhile {s : Spot} {p : UInt8 → Bool} (stays : ∀ {b}, p b = true → s.step b = .ok s)
    (bytes : List UInt8) : s.Goes bytes s (bytes.dropWhile p) := by
  induction bytes with
  | nil => exact .refl s []
  | cons b bytes ih =>
    by_cases h : p b = true
    · rw [List.dropWhile_cons_of_pos h]
      exact .cons (stays h) ih
    · rw [List.dropWhile_cons_of_neg h]
      exact .refl s _

theorem goes_blanks (bytes : List UInt8) : (outside d).Goes bytes (outside d) (skipBlanks bytes) :=
  goes_dropWhile step_blank bytes

theorem goes_digits (bytes : List UInt8) :
    (outside d).Goes bytes (outside d) (bytes.dropWhile isDigit) :=
  goes_dropWhile step_digit bytes

theorem goes_of_skipBlanks {b : UInt8} (h : skipBlanks bytes = b :: rest) :
    (outside d).Goes bytes (outside d) (b :: rest) :=
  h ▸ goes_blanks bytes

/-! ### Words -/

theorem lands_word {word : List UInt8} (letters : word.all Mode.isLetter = true)
    (bytes : List UInt8) :
    Lands ⟨.ofWord word, d⟩ (outside d) bytes (readWord word bytes) := by
  induction word generalizing bytes with
  | nil => exact .refl (outside d) bytes
  | cons letter word ih =>
    cases bytes with
    | nil => exact .refl (Nat.le_refl d) []
    | cons b tail =>
      obtain ⟨isLetter, others⟩ := Bool.and_eq_true_iff.mp letters
      rw [readWord]
      split_ifs with same
      · subst same
        exact (ih others tail).after (goes_step (step_of_next (if_pos ⟨rfl, isLetter⟩) (by rintro ⟨⟩)))
      · exact strays_of_junk (step_of_none (if_neg fun found => same found.1))

/-! ### Numbers -/

theorem step_first {b : UInt8} (digits : isDigit b = true) :
    (⟨.digit, d⟩ : Spot).step b = .ok (outside d) :=
  step_of_next (if_pos digits) nofun

theorem step_sign {b : UInt8} (sign : b = plus ∨ b = minus) :
    (⟨.exponent, d⟩ : Spot).step b = .ok ⟨.digit, d⟩ :=
  step_of_next (if_pos sign) nofun

theorem step_exponent {b : UInt8} (digits : isDigit b = true) :
    (⟨.exponent, d⟩ : Spot).step b = .ok (outside d) := by
  have other {c : UInt8} (h : isDigit c = false) : b ≠ c := apart_of_isDigit digits h
  refine step_of_next ?_ nofun
  simp [Mode.next, digits, other (c := plus) rfl, other (c := minus) rfl]

theorem goes_gatherDigits (limit value count : Nat) (bytes : List UInt8) :
    (outside d).Goes bytes (outside d) (gatherDigits limit value count bytes).2.2 := by
  fun_induction gatherDigits limit value count bytes with
  | case1 value count b tail more ih => exact .cons (step_digit more.1) ih
  | case2 => exact .refl _ _
  | case3 => exact .refl _ _

/-- The digits that are not gathered are dropped later. -/
theorem dropDigits_gatherDigits (limit value count : Nat) (bytes : List UInt8) :
    (gatherDigits limit value count bytes).2.2.dropWhile isDigit = bytes.dropWhile isDigit := by
  fun_induction gatherDigits limit value count bytes with
  | case1 value count b tail more ih => rw [ih, List.dropWhile_cons_of_pos more.1]
  | case2 => rfl
  | case3 => rfl

theorem dropDigits_of_not_digitAhead (h : ¬digitAhead bytes = true) :
    bytes.dropWhile isDigit = bytes := by
  cases bytes with
  | nil => rfl
  | cons b tail => exact List.dropWhile_cons_of_neg h

theorem lands_floatOf (positive : Bool) (significand : Nat) (exponent : Int) (rest : List UInt8) :
    Lands (outside d) (outside d) rest (stop (floatOf positive significand exponent rest)) := by
  unfold floatOf
  split
  · exact .refl _ rest
  · exact .refl (Nat.le_refl d) rest

theorem lands_readExponent (positive : Bool) (significand : Nat) (start : Int)
    (bytes : List UInt8) :
    Lands ⟨.exponent, d⟩ (outside d) bytes (stop (readExponent positive significand start bytes)) := by
  unfold readExponent
  simp only
  split
  next none =>
    split at none
    next =>
      cases none
      exact (goes_step (step_sign (.inl rfl))).strays (Nat.le_refl d)
    next =>
      cases none
      exact (goes_step (step_sign (.inr rfl))).strays (Nat.le_refl d)
    next =>
      cases none
      exact .refl (Nat.le_refl d) []
  next b tail found =>
    have goes (digits : isDigit b = true) : (⟨.exponent, d⟩ : Spot).Goes bytes (outside d) tail := by
      split at found
      next =>
        cases found
        exact .cons (step_sign (.inl rfl)) (goes_step (step_first digits))
      next =>
        cases found
        exact .cons (step_sign (.inr rfl)) (goes_step (step_first digits))
      next =>
        cases found
        exact goes_step (step_exponent digits)
    have strays (other : ¬isDigit b = true) : (⟨.exponent, d⟩ : Spot).Strays d bytes tail := by
      have junk : (⟨.digit, d⟩ : Spot).Strays d (b :: tail) tail :=
        strays_of_junk (step_of_none (if_neg other))
      split at found
      next =>
        cases found
        exact junk.after (goes_step (step_sign (.inl rfl)))
      next =>
        cases found
        exact junk.after (goes_step (step_sign (.inr rfl)))
      next noPlus noMinus =>
        cases found
        have noSign : ¬(b = plus ∨ b = minus) := by
          rintro (rfl | rfl)
          · exact noPlus tail rfl
          · exact noMinus tail rfl
        exact strays_of_junk (step_of_none ((if_neg noSign).trans (if_neg other)))
    by_cases digits : isDigit b = true
    · rw [if_pos digits]
      have gathered := (goes digits).trans (goes_gatherDigits maxExponent (digit b) 0 tail)
      generalize (gatherDigits maxExponent (digit b) 0 tail).2.2 = more at gathered ⊢
      split_ifs with ahead large raises
      · refine Strays.after ?_ gathered
        cases more with
        | nil => cases ahead
        | cons c more => exact (goes_step (step_digit ahead)).strays (Nat.le_refl d)
      · exact gathered.trans (goes_digits more)
      · exact (lands_floatOf ..).after gathered
      · exact (lands_floatOf ..).after gathered
    · rw [if_neg digits]
      exact strays digits

theorem lands_readScale (positive : Bool) (significand : Nat) (exponent : Int)
    (bytes : List UInt8) :
    Lands (outside d) (outside d) bytes (stop (readScale positive significand exponent bytes)) := by
  unfold readScale
  split
  · exact (lands_readExponent ..).after (goes_step rfl)
  · exact (lands_readExponent ..).after (goes_step rfl)
  · exact lands_floatOf ..

theorem lands_readFraction (positive : Bool) (significand : Nat) (exponent : Int)
    (bytes : List UInt8) :
    Lands ⟨.digit, d⟩ (outside d) bytes (stop (readFraction positive significand exponent bytes)) := by
  cases bytes with
  | nil => exact .refl (Nat.le_refl d) []
  | cons b tail =>
    by_cases digits : isDigit b = true
    · have goes : (⟨.digit, d⟩ : Spot).Goes (b :: tail) (outside d) (tail.dropWhile isDigit) :=
        .cons (step_first digits) (goes_digits tail)
      have same := dropDigits_gatherDigits maxSignificand significand 0 (b :: tail)
      rw [List.dropWhile_cons_of_pos digits] at same
      rw [← same] at goes
      unfold readFraction
      simp only
      generalize gatherDigits maxSignificand significand 0 (b :: tail) = gathered at goes ⊢
      by_cases ahead : digitAhead gathered.2.2 = true
      · rw [if_pos ahead]
        exact (lands_readScale ..).after goes
      · rw [dropDigits_of_not_digitAhead ahead] at goes
        rw [if_neg ahead]
        split_ifs
        · exact goes.strays (Nat.le_refl d)
        · exact goes.strays (Nat.le_refl d)
        · exact (lands_readScale ..).after goes
    · have same : readFraction positive significand exponent (b :: tail) =
          .error (.ahead .invalidNumber (b :: tail)) := by
        simp [readFraction, gatherDigits, digitAhead, digits]
      rw [same]
      exact .refl (Nat.le_refl d) _

theorem lands_readTail (positive : Bool) (significand : Nat) (bytes : List UInt8) :
    Lands (outside d) (outside d) bytes (stop (readTail positive significand bytes)) := by
  unfold readTail
  split
  · exact (lands_readFraction ..).after (goes_step rfl)
  · exact (lands_readExponent ..).after (goes_step rfl)
  · exact (lands_readExponent ..).after (goes_step rfl)
  · exact .refl _ _

/-- A number is read where a digit must come, and after its first digit elsewhere. -/
theorem lands_readNumber (positive : Bool) {s : Spot} {b : UInt8} (tail : List UInt8)
    (starts : isDigit b = true → s.step b = .ok (outside d))
    (fails : ¬isDigit b = true → s.Strays d (b :: tail) tail) :
    Lands s (outside d) (b :: tail) (stop (readNumber positive (b :: tail))) := by
  unfold readNumber
  simp only
  by_cases digits : isDigit b = true
  · have first : s.Goes (b :: tail) (outside d) tail := goes_step (starts digits)
    have goes := first.trans (goes_digits tail)
    rw [← dropDigits_gatherDigits maxSignificand (digit b) 0 tail] at goes
    generalize gatherDigits maxSignificand (digit b) 0 tail = gathered at goes ⊢
    split_ifs with isZero ahead more
    · exact first.strays (Nat.le_refl d)
    · exact (lands_readTail ..).after first
    · split
      next rest found =>
        rw [found] at goes
        exact (lands_readFraction ..).after (goes.trans (goes_step rfl))
      next => exact (lands_readScale ..).after goes
    · rw [dropDigits_of_not_digitAhead more] at goes
      exact (lands_readTail ..).after goes
  · have other : b ≠ zero := fun same => digits (same ▸ rfl)
    rw [if_neg other, if_neg digits]
    exact fails digits

/-- A number is read after its sign. -/
theorem lands_signed (positive : Bool) (bytes : List UInt8) :
    Lands ⟨.digit, d⟩ (outside d) bytes (stop (readNumber positive bytes)) := by
  cases bytes with
  | nil => exact .refl (Nat.le_refl d) []
  | cons b tail =>
    exact lands_readNumber positive tail step_first fun other =>
      strays_of_junk (step_of_none (if_neg other))

/-- A number is read from its first digit on. -/
theorem lands_digits (positive : Bool) {b : UInt8} (digits : isDigit b = true) (tail : List UInt8) :
    Lands (outside d) (outside d) (b :: tail) (stop (readNumber positive (b :: tail))) :=
  lands_readNumber positive tail step_digit fun other => absurd digits other

/-! ### Texts -/

theorem step_backslash : (inside d).step backslash = .ok ⟨.escape, d⟩ := rfl

theorem step_letterU : (⟨.escape, d⟩ : Spot).step letterU = .ok ⟨.hex 3, d⟩ := rfl

theorem step_hex {left : Nat} {b : UInt8} {n : Nat} (h : hexValue? b = some n) :
    (⟨.hex left, d⟩ : Spot).step b = .ok ⟨.ofHex left, d⟩ :=
  step_of_next (if_pos (by rw [h]; rfl)) nofun

/-- Bytes in place of hexadecimal digits leave the brackets alone. -/
theorem strays_hex (left : Nat) (taken rest : List UInt8) (short : taken.length ≤ left + 1) :
    (⟨.hex left, d⟩ : Spot).Strays d (taken ++ rest) rest := by
  induction taken generalizing left with
  | nil => exact .refl (Nat.le_refl d) rest
  | cons b taken ih =>
    cases value : hexValue? b with
    | none =>
      have junk : (⟨.hex left, d⟩ : Spot).step b = .error .junk :=
        step_of_none (if_neg (by rw [value]; decide))
      exact ⟨b :: taken, rfl, .inl (by rw [Spot.scan, junk])⟩
    | some n =>
      refine Strays.after ?_ (goes_step (step_hex value))
      cases left with
      | zero =>
        obtain rfl := List.length_eq_zero_iff.mp (Nat.le_zero.mp (Nat.le_of_succ_le_succ short))
        exact .refl (Nat.le_refl d) rest
      | succ left => exact ih left (Nat.le_of_succ_le_succ short)

theorem lands_readHex (bytes : List UInt8) :
    Lands ⟨.hex 3, d⟩ (inside d) bytes (stop (readHex bytes)) := by
  unfold readHex
  split
  next a b c e rest =>
    split
    next found₁ found₂ found₃ found₄ =>
      exact .cons (step_hex found₁) (.cons (step_hex found₂) (.cons (step_hex found₃)
        (goes_step (step_hex found₄))))
    next => exact strays_hex 3 [a, b, c, e] rest (Nat.le_refl 4)
  next short =>
    have strays := strays_hex (d := d) 3 bytes []
    rw [List.append_nil] at strays
    refine strays ?_
    rcases bytes with _ | ⟨a, _ | ⟨b, _ | ⟨c, _ | ⟨e, rest⟩⟩⟩⟩
    · exact Nat.zero_le 4
    · exact Nat.le_add_left 1 3
    · exact Nat.le_add_left 2 2
    · exact Nat.le_add_left 3 1
    · exact (short a b c e rest rfl).elim

theorem lands_readLowSurrogate (high : Nat) (bytes : List UInt8) :
    Lands (inside d) (inside d) bytes (stop (readLowSurrogate high bytes)) := by
  unfold readLowSurrogate
  split
  next rest =>
    have opened : (inside d).Goes (backslash :: letterU :: rest) ⟨.hex 3, d⟩ rest :=
      .cons step_backslash (goes_step step_letterU)
    have lands := (lands_readHex rest).after opened
    split
    next f failed => exact lands.strays failed
    next low more read =>
      have goes := lands.goes read
      split_ifs
      · exact goes
      · exact goes.strays (Nat.le_refl d)
  next b rest _ =>
    have strays : (⟨.escape, d⟩ : Spot).Strays d (b :: rest) rest := strays_byte (by nofun) b rest
    exact strays.after (goes_step step_backslash)
  next =>
    have goes : (inside d).Goes [backslash] ⟨.escape, d⟩ [] := goes_step step_backslash
    exact goes.strays (Nat.le_refl d)
  next b rest _ _ _ => exact strays_byte (by nofun) b rest
  next => exact .refl (Nat.le_refl d) []

theorem lands_readNumbered (bytes : List UInt8) :
    Lands ⟨.hex 3, d⟩ (inside d) bytes (stop (readNumbered bytes)) := by
  have lands := lands_readHex (d := d) bytes
  unfold readNumbered
  split
  next f failed => exact lands.strays failed
  next n rest read =>
    have goes := lands.goes read
    split_ifs
    · exact goes.strays (Nat.le_refl d)
    · exact (lands_readLowSurrogate ..).after goes
    · exact goes

theorem lands_readEscape (bytes : List UInt8) :
    Lands ⟨.escape, d⟩ (inside d) bytes (stop (readEscape bytes)) := by
  unfold readEscape
  split
  next => exact .refl (Nat.le_refl d) []
  next b rest =>
    split_ifs with numbered
    · subst numbered
      exact (lands_readNumbered rest).after (goes_step step_letterU)
    · split
      next c simple =>
        have found : Mode.escape.next b = some .text :=
          (if_neg numbered).trans (if_pos (by rw [simple]; rfl))
        exact goes_step (step_of_next found (by rintro ⟨⟩))
      next => exact strays_byte (by rintro ⟨⟩) b rest

/-- A byte of a text that stands for itself. -/
theorem step_plain {b : UInt8} (noQuote : ¬b = quote) (noBackslash : ¬b = backslash)
    (noControl : ¬b < 0x20) : (inside d).step b = .ok (inside d) :=
  step_of_next (((if_neg noQuote).trans (if_neg noBackslash)).trans (if_neg noControl)) nofun

theorem lands_readBytes (bytes : List UInt8) :
    Lands (inside d) (outside d) bytes (stop (readBytes bytes)) := by
  fun_induction readBytes bytes with
  | case1 => exact .refl (Nat.le_refl d) []
  | case2 rest => exact goes_step rfl
  | case3 rest f failed =>
    exact ((lands_readEscape rest).after (goes_step step_backslash)).strays failed
  | case4 rest c more read f failed _ ih =>
    exact (ih.strays failed).after
      (((lands_readEscape rest).after (goes_step step_backslash)).goes read)
  | case5 rest c more read content left found _ ih =>
    exact (((lands_readEscape rest).after (goes_step step_backslash)).goes read).trans (ih.goes found)
  | case6 b rest noQuote noBackslash control => exact strays_byte (by nofun) b rest
  | case7 b rest noQuote noBackslash noControl f failed ih =>
    exact (ih.strays failed).after (goes_step (step_plain noQuote noBackslash noControl))
  | case8 b rest noQuote noBackslash noControl content left found ih =>
    exact .cons (step_plain noQuote noBackslash noControl) (ih.goes found)

theorem lands_readText (bytes : List UInt8) :
    Lands (inside d) (outside d) bytes (stop (readText bytes)) := by
  have lands := lands_readBytes (d := d) bytes
  unfold readText
  split
  next f failed => exact lands.strays failed
  next content rest read =>
    have goes := lands.goes read
    split
    · exact goes
    · exact goes.strays (Nat.le_refl d)

end RoomHub.Json
