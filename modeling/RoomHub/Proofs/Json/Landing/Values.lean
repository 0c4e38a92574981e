import RoomHub.Proofs.Json.Inversion
import RoomHub.Proofs.Json.Landing.Scalars

/-!
# Where readers of values stop

What is passed over leads back to where it began (`goes_skipValue`).  A value of any kind lands
(`lands_readAny`), as the items of an array and the members of an object do.  An array or object whose
contents had a fault is closed all the same: that leads out of one bracket at most (`Closing`).
-/

namespace RoomHub.Json

open Byte Spot

variable {d : Nat} {bytes rest : List UInt8}

/-! ### What is passed over -/

theorem goes_skipEscape (h : skipEscape bytes = .ok rest) :
    (⟨.escape, d⟩ : Spot).Goes bytes (inside d) rest := by
  unfold skipEscape at h
  split at h
  next => cases h
  next b tail =>
    split_ifs at h with numbered simple
    · subst numbered
      obtain ⟨⟨n, more⟩, read, rfl⟩ := Except.map_eq_ok.mp h
      exact .cons step_letterU ((lands_readHex tail).goes read)
    · cases h
      have found : Mode.escape.next b = some .text := (if_neg numbered).trans (if_pos simple)
      exact goes_step (step_of_next found (by rintro ⟨⟩))

theorem goes_skipText (h : skipText bytes = .ok rest) : (inside d).Goes bytes (outside d) rest := by
  fun_induction skipText bytes with
  | case1 => cases h
  | case2 tail =>
    cases h
    exact goes_step rfl
  | case3 tail more passed _ ih =>
    exact .cons step_backslash ((goes_skipEscape passed).trans (ih h))
  | case4 => cases h
  | case5 => cases h
  | case6 b tail noQuote noBackslash noControl ih =>
    exact .cons (step_plain noQuote noBackslash noControl) (ih h)

theorem goes_skipExponent (h : skipExponent bytes = .ok rest) :
    (⟨.exponent, d⟩ : Spot).Goes bytes (outside d) rest := by
  unfold skipExponent at h
  simp only at h
  split at h
  next => cases h
  next b tail found =>
    split_ifs at h with digits
    cases h
    refine Goes.trans ?_ (goes_digits tail)
    split at found
    next =>
      cases found
      exact .cons (step_sign (.inl rfl)) (goes_step (step_first digits))
    next =>
      cases found
      exact .cons (step_sign (.inr rfl)) (goes_step (step_first digits))
    next =>
      cases found
      exact goes_step (step_exponent digits)

theorem goes_skipScale (h : skipScale bytes = .ok rest) :
    (outside d).Goes bytes (outside d) rest := by
  unfold skipScale at h
  split at h
  · exact .cons rfl (goes_skipExponent h)
  · exact .cons rfl (goes_skipExponent h)
  · cases h
    exact .refl _ _

theorem goes_skipFraction (h : skipFraction bytes = .ok rest) :
    (outside d).Goes bytes (outside d) rest := by
  unfold skipFraction at h
  split at h
  next b tail =>
    split_ifs at h with digits
    have first : (outside d).Goes (point :: b :: tail) (outside d) tail :=
      .cons (t := ⟨.digit, d⟩) rfl (goes_step (step_first digits))
    exact (first.trans (goes_digits tail)).trans (goes_skipScale h)
  next => cases h
  next => exact goes_skipScale h

theorem goes_skipNumber {s : Spot} (starts : ∀ {b}, isDigit b = true → s.step b = .ok (outside d))
    (h : skipNumber bytes = .ok rest) : s.Goes bytes (outside d) rest := by
  unfold skipNumber at h
  split at h
  next => cases h
  next b tail =>
    split_ifs at h with isZero digits
    · subst isZero
      split at h
      next c more =>
        split_ifs at h
        exact .cons (starts rfl) (goes_skipFraction h)
      next =>
        cases h
        exact goes_step (starts rfl)
    · exact (Goes.cons (starts digits) (goes_digits tail)).trans (goes_skipFraction h)

theorem goes_skipScalar (h : skipScalar bytes = .ok rest) :
    (outside d).Goes bytes (outside d) rest := by
  have word {tail word : List UInt8} (letters : word.all Mode.isLetter = true)
      (h : readWord word tail = .ok rest) : (⟨.ofWord word, d⟩ : Spot).Goes tail (outside d) rest := by
    have lands := lands_word (d := d) letters tail
    rwa [h] at lands
  unfold skipScalar at h
  split at h
  next => cases h
  next b tail =>
    split_ifs at h with isNull isTrue isFalse isMinus digits isText
    · subst isNull
      exact .cons rfl (word rfl h)
    · subst isTrue
      exact .cons rfl (word rfl h)
    · subst isFalse
      exact .cons rfl (word rfl h)
    · subst isMinus
      exact .cons rfl (goes_skipNumber step_first h)
    · exact goes_skipNumber step_digit h
    · subst isText
      exact .cons rfl (goes_skipText h)

theorem lands_readColon (bytes : List UInt8) :
    Lands (outside d) (outside d) bytes (readColon bytes) := by
  unfold readColon
  split
  next ahead =>
    have goes := goes_blanks (d := d) bytes
    rw [ahead] at goes
    exact goes.strays (Nat.le_refl d)
  next b tail ahead =>
    have goes := goes_of_skipBlanks (d := d) ahead
    split_ifs with isColon
    · subst isColon
      exact goes.trans (goes_step rfl)
    · exact goes.strays (Nat.le_refl d)

theorem goes_readColon (h : readColon bytes = .ok rest) :
    (outside d).Goes bytes (outside d) rest := by
  have lands := lands_readColon (d := d) bytes
  rwa [h] at lands

theorem goes_skipName (h : skipName bytes = .ok rest) :
    (outside d).Goes bytes (outside d) rest := by
  unfold skipName at h
  split at h
  next => cases h
  next b tail ahead =>
    split_ifs at h with isText
    subst isText
    split at h
    next more passed =>
      exact (goes_of_skipBlanks ahead).trans
        (.cons rfl ((goes_skipText passed).trans (goes_readColon h)))
    next => cases h

theorem step_open {b : UInt8} (opens : b = bracketOpen ∨ b = braceOpen) :
    (outside d).step b = .ok (outside (d + 1)) := by
  obtain rfl | rfl := opens <;> rfl

theorem step_close {b : UInt8} (closes : b = bracketClose ∨ b = braceClose) :
    (outside (d + 1)).step b = .ok (outside d) := by
  obtain rfl | rfl := closes <;> rfl

theorem step_comma : (outside (d + 1)).step comma = .ok (outside (d + 1)) := rfl

/-- What is passed over inside some brackets leads out of all of them. -/
theorem goes_skipNested (stack : List Bracket) {next : Next} (h : skipNested stack next bytes = .ok rest) :
    (outside (d + stack.length)).Goes bytes (outside d) rest := by
  fun_induction skipNested stack next bytes with
  | case1 => cases h
  | case2 stack bytes tail _ ahead ih =>
    exact (goes_of_skipBlanks ahead).trans (.cons (step_open (.inl rfl)) (ih h))
  | case3 stack bytes tail _ ahead _ ih =>
    exact (goes_of_skipBlanks ahead).trans (.cons (step_open (.inr rfl)) (ih h))
  | case4 => cases h
  | case5 stack bytes b tail ahead _ _ _ more passed ih =>
    exact ((goes_of_skipBlanks ahead).trans (goes_skipScalar passed)).trans (ih h)
  | case6 =>
    cases h
    exact .refl _ _
  | case7 => cases h
  | case8 bytes _ outer b tail ahead _ isComma ih =>
    obtain rfl := isComma.1
    exact (goes_of_skipBlanks ahead).trans (.cons step_comma (ih h))
  | case9 => cases h
  | case10 bytes _ outer b tail ahead _ isComma more passed ih =>
    obtain rfl := isComma.1
    exact (goes_of_skipBlanks ahead).trans
      (.cons step_comma ((goes_skipName passed).trans (ih h)))
  | case11 bytes _ top outer tail _ ahead _ ih =>
    exact (goes_of_skipBlanks ahead).trans
      (.cons (step_close (by cases top <;> decide)) (ih h))
  | case12 => cases h
  | case13 bytes _ outer b tail ahead _ _ _ _ ih => exact (goes_of_skipBlanks ahead).trans (ih h)
  | case14 => cases h
  | case15 bytes _ outer b tail ahead _ _ _ more passed _ ih =>
    exact ((goes_of_skipBlanks ahead).trans (goes_skipName passed)).trans (ih h)

theorem goes_skipValue (h : skipValue bytes = .ok rest) :
    (outside d).Goes bytes (outside d) rest :=
  goes_skipNested [] h

/-! ### Arrays and objects -/

/-- A reader of a closing bracket lands outside of it, and from anywhere inside it closes no other
bracket. -/
structure Closing (close : List UInt8 → Except Fault (List UInt8)) : Prop where
  lands (d : Nat) (bytes : List UInt8) : Lands (outside (d + 1)) (outside d) bytes (close bytes)
  strays {s : Spot} {d : Nat} {bytes rest : List UInt8} : s.Strays (d + 1) bytes rest →
    s.Strays d bytes (match close rest with
      | .ok rest => rest
      | .error g => g.rest)

theorem closing_endArray : Closing endArray where
  lands d bytes := by
    have blanks := goes_blanks (d := d + 1) bytes
    unfold endArray
    split
    next none =>
      rw [none] at blanks
      exact blanks.strays (Nat.le_succ d)
    next b tail ahead =>
      rw [ahead] at blanks
      split_ifs with closes separates
      · exact blanks.trans (goes_step (step_close (.inl closes)))
      · subst separates
        have goes := (blanks.trans (goes_step step_comma)).trans (goes_blanks tail)
        split
        next none =>
          rw [none] at goes
          exact goes.strays (Nat.le_succ d)
        next c more found =>
          rw [found] at goes
          exact goes.strays (Nat.le_succ d)
      · exact blanks.strays (Nat.le_succ d)
  strays {s d bytes rest} strays := by
    have blanks := strays.blanks
    unfold endArray
    cases ahead : skipBlanks rest with
    | nil =>
      rw [ahead] at blanks
      exact blanks.mono (Nat.le_succ d)
    | cons b tail =>
      rw [ahead] at blanks
      dsimp only
      split_ifs with closes separates
      · exact blanks.pass.1
      · subst separates
        have further := (blanks.pass.2 (by decide) (by decide)).blanks
        cases found : skipBlanks tail with
        | nil =>
          rw [found] at further
          exact further.mono (Nat.le_succ d)
        | cons c more =>
          rw [found] at further
          exact further.mono (Nat.le_succ d)
      · exact blanks.mono (Nat.le_succ d)

theorem closing_endObject : Closing endObject where
  lands d bytes := by
    have blanks := goes_blanks (d := d + 1) bytes
    unfold endObject
    split
    next none =>
      rw [none] at blanks
      exact blanks.strays (Nat.le_succ d)
    next b tail ahead =>
      rw [ahead] at blanks
      split_ifs with closes
      · exact blanks.trans (goes_step (step_close (.inr closes)))
      all_goals exact blanks.strays (Nat.le_succ d)
  strays {s d bytes rest} strays := by
    have blanks := strays.blanks
    unfold endObject
    cases ahead : skipBlanks rest with
    | nil =>
      rw [ahead] at blanks
      exact blanks.mono (Nat.le_succ d)
    | cons b tail =>
      rw [ahead] at blanks
      dsimp only
      split_ifs
      · exact blanks.pass.1
      all_goals exact blanks.mono (Nat.le_succ d)

theorem lands_closeWith {α : Type} {close : List UInt8 → Except Fault (List UInt8)} {s : Spot}
    {contents : Except Fault (α × List UInt8)} (closing : Closing close)
    (lands : Lands s (outside (d + 1)) bytes (stop contents)) :
    Lands s (outside d) bytes (stop (closeWith close contents)) := by
  cases contents with
  | ok p =>
    obtain ⟨a, rest⟩ := p
    have closed := (closing.lands d rest).after (lands.goes rfl)
    unfold closeWith
    dsimp only
    cases end_ : close rest <;>
      rw [end_] at closed <;>
      exact closed
  | error f => exact closing.strays (lands.strays rfl)

/-- How the next item begins. -/
theorem lands_nextItem (first : Bool) (bytes : List UInt8) :
    match nextItem first bytes with
    | .ok none => True
    | .ok (some rest) => (outside (d + 1)).Goes bytes (outside (d + 1)) rest
    | .error f => (outside (d + 1)).Strays (d + 1) bytes f.rest := by
  have blanks := goes_blanks (d := d + 1) bytes
  unfold nextItem
  cases ahead : skipBlanks bytes with
  | nil =>
    rw [ahead] at blanks
    exact blanks.strays (Nat.le_refl _)
  | cons b tail =>
    rw [ahead] at blanks
    dsimp only
    split_ifs with closes isFirst separates
    · trivial
    · exact blanks
    · subst separates
      have goes := (blanks.trans (goes_step step_comma)).trans (goes_blanks tail)
      cases found : skipBlanks tail with
      | nil =>
        rw [found] at goes
        exact goes.strays (Nat.le_refl _)
      | cons c more =>
        rw [found] at goes
        dsimp only
        split_ifs
        · exact goes.strays (Nat.le_refl _)
        · exact goes
    · exact blanks.strays (Nat.le_refl _)

/-- How the next member begins. -/
theorem lands_nextName (first : Bool) (bytes : List UInt8) :
    match nextName first bytes with
    | .ok none => True
    | .ok (some rest) => (outside (d + 1)).Goes bytes (outside (d + 1)) (quote :: rest)
    | .error f => (outside (d + 1)).Strays (d + 1) bytes f.rest := by
  have blanks := goes_blanks (d := d + 1) bytes
  unfold nextName
  cases ahead : skipBlanks bytes with
  | nil =>
    rw [ahead] at blanks
    exact blanks.strays (Nat.le_refl _)
  | cons b tail =>
    rw [ahead] at blanks
    dsimp only
    split_ifs with closes isFirst quoted separates
    · trivial
    · subst quoted
      exact blanks
    · exact blanks.strays (Nat.le_refl _)
    · subst separates
      have goes := (blanks.trans (goes_step step_comma)).trans (goes_blanks tail)
      cases found : skipBlanks tail with
      | nil =>
        rw [found] at goes
        exact goes.strays (Nat.le_refl _)
      | cons c more =>
        rw [found] at goes
        dsimp only
        split_ifs with quoted
        · subst quoted
          exact goes
        all_goals exact goes.strays (Nat.le_refl _)
    · exact blanks.strays (Nat.le_refl _)

theorem goes_of_nextName {first : Bool} {start : List UInt8}
    (h : nextName first bytes = .ok (some start)) :
    (outside (d + 1)).Goes bytes (outside (d + 1)) (quote :: start) := by
  have lands := lands_nextName (d := d) first bytes
  rwa [h] at lands

theorem lands_readItems {α : Type} {item : Reader α}
    (lands : ∀ bytes, Lands (outside (d + 1)) (outside (d + 1)) bytes (stop (item bytes)))
    (fuel : Nat) (first : Bool) (bytes : List UInt8) :
    Lands (outside (d + 1)) (outside (d + 1)) bytes (stop (readItems item fuel first bytes)) := by
  induction fuel generalizing first bytes with
  | zero => exact .refl (Nat.le_refl _) bytes
  | succ fuel ih =>
    have next := lands_nextItem (d := d) first bytes
    rw [readItems]
    split
    next f failed =>
      rw [failed] at next
      exact next
    next => exact goes_blanks bytes
    next start found =>
      rw [found] at next
      have one := (lands start).after next
      split
      next f failed => exact one.strays failed
      next a more read =>
        have all := (ih false more).after (one.goes read)
        split
        next f failed => exact all.strays failed
        next as rest read => exact all.goes read

theorem lands_readMembers {α : Type} {member : String → α → Reader α}
    (lands : ∀ name state bytes,
      Lands (outside (d + 1)) (outside (d + 1)) bytes (stop (member name state bytes)))
    (fuel : Nat) (first : Bool) (state : α) (bytes : List UInt8) :
    Lands (outside (d + 1)) (outside (d + 1)) bytes
      (stop (readMembers member fuel first state bytes)) := by
  induction fuel generalizing first state bytes with
  | zero => exact .refl (Nat.le_refl _) bytes
  | succ fuel ih =>
    have next := lands_nextName (d := d) first bytes
    rw [readMembers]
    split
    next f failed =>
      rw [failed] at next
      exact next
    next => exact goes_blanks bytes
    next start found =>
      rw [found] at next
      have named := (lands_readText start).after (next.trans (goes_step rfl))
      split
      next f failed => exact named.strays failed
      next name more read =>
        have one := (lands name state more).after (named.goes read)
        split
        next f failed => exact one.strays failed
        next state rest read => exact (ih false state rest).after (one.goes read)

/-! ### Values -/

theorem lands_letter {α : Type} {b : UInt8} {word : List UInt8} (a : α) (bytes : List UInt8)
    (letters : word.all Mode.isLetter = true)
    (starts : (outside d).step b = .ok ⟨.ofWord word, d⟩) :
    Lands (outside d) (outside d) (b :: bytes) (stop ((readWord word bytes).map (a, ·))) :=
  lands_map_const.mpr ((lands_word letters bytes).after (goes_step starts))

/-- A value lands if what it may contain does. -/
theorem lands_readAny_of {depth : Nat}
    (nested : ∀ inner, depth = inner + 1 → ∀ bytes,
      Lands (outside (d + 1)) (outside (d + 1)) bytes (stop (readAny inner bytes)))
    (bytes : List UInt8) : Lands (outside d) (outside d) bytes (stop (readAny depth bytes)) := by
  have blanks := goes_blanks (d := d) bytes
  unfold readAny
  cases ahead : skipBlanks bytes with
  | nil =>
    rw [ahead] at blanks
    exact blanks.strays (Nat.le_refl d)
  | cons b tail =>
    rw [ahead] at blanks
    refine Lands.after ?_ blanks
    dsimp only
    split_ifs with isNull isTrue isFalse isMinus digits isText opens isArray
    · subst isNull
      exact lands_letter Value.null tail rfl rfl
    · subst isTrue
      exact lands_letter (Value.flag true) tail rfl rfl
    · subst isFalse
      exact lands_letter (Value.flag false) tail rfl rfl
    · subst isMinus
      exact ((lands_signed false tail).after (goes_step rfl)).map fun _ => rfl
    · exact (lands_digits true digits tail).map fun _ => rfl
    · subst isText
      exact ((lands_readText tail).after (goes_step rfl)).map fun _ => rfl
    · cases depth with
      | zero => exact .refl (Nat.le_refl d) _
      | succ inner =>
        exact ((lands_closeWith closing_endArray (lands_readItems (nested inner rfl) ..)).after
          (goes_step (step_open opens))).map fun _ => rfl
    · cases depth with
      | zero => exact .refl (Nat.le_refl d) _
      | succ inner =>
        refine ((lands_closeWith closing_endObject
          (lands_readMembers (fun name members start => ?_) ..)).after
            (goes_step (step_open opens))).map fun _ => rfl
        have colon := lands_readColon (d := d + 1) start
        split
        next f failed =>
          rw [failed] at colon
          exact colon
        next more read =>
          rw [read] at colon
          exact ((nested inner rfl more).after colon).map fun _ => rfl
    · exact .refl (Nat.le_refl d) _

theorem lands_readAny (depth d : Nat) (bytes : List UInt8) :
    Lands (outside d) (outside d) bytes (stop (readAny depth bytes)) := by
  induction depth generalizing d bytes with
  | zero => exact lands_readAny_of (fun _ same => by cases same) bytes
  | succ depth ih =>
    refine lands_readAny_of (fun inner same bytes => ?_) bytes
    obtain rfl : depth = inner := Nat.succ.inj same
    exact ih (d + 1) bytes

/-- A value of another kind is read, or left alone if it is an array or object. -/
theorem strays_mismatch (expected : String) (bytes : List UInt8) :
    (outside d).Strays d bytes (mismatch expected bytes).rest := by
  cases bytes with
  | nil => exact .refl (Nat.le_refl d) []
  | cons b tail =>
    have word {word : List UInt8} {found : Found} (letters : word.all Mode.isLetter = true)
        (starts : (outside d).step b = .ok ⟨.ofWord word, d⟩) :
        (outside d).Strays d (b :: tail) (match readWord word tail with
          | .ok rest => .here (.wrongType found expected) rest
          | .error f => f : Fault).rest := by
      have lands := (lands_word letters tail).after (goes_step starts)
      cases read : readWord word tail with
      | ok rest =>
        rw [read] at lands
        exact Goes.strays lands (Nat.le_refl d)
      | error f =>
        rw [read] at lands
        exact lands
    unfold mismatch
    simp only
    split_ifs with isNull isTrue isFalse isMinus digits isText
    · subst isNull
      exact word rfl rfl
    · subst isTrue
      exact word rfl rfl
    · subst isFalse
      exact word rfl rfl
    · subst isMinus
      have lands := (lands_signed false tail).after (goes_step (s := outside d) (b := minus) rfl)
      split
      next n rest read => exact (lands.goes read).strays (Nat.le_refl d)
      next f failed => exact lands.strays failed
    · have lands := lands_digits (d := d) true digits tail
      split
      next n rest read => exact (lands.goes read).strays (Nat.le_refl d)
      next f failed => exact lands.strays failed
    · subst isText
      have lands := (lands_readText tail).after (goes_step (s := outside d) (b := quote) rfl)
      split
      next s rest read => exact (lands.goes read).strays (Nat.le_refl d)
      next f failed => exact lands.strays failed
    all_goals exact .refl (Nat.le_refl d) _

theorem lands_readTextAs {α : Type} (expected : String) (visit : String → Except Cause α)
    (bytes : List UInt8) :
    Lands (outside d) (outside d) bytes (stop (readTextAs expected visit bytes)) := by
  have blanks := goes_blanks (d := d) bytes
  unfold readTextAs
  cases ahead : skipBlanks bytes with
  | nil =>
    rw [ahead] at blanks
    exact blanks.strays (Nat.le_refl d)
  | cons b tail =>
    rw [ahead] at blanks
    refine Lands.after ?_ blanks
    dsimp only
    split_ifs with isText
    · subst isText
      have lands := (lands_readText (d := d) tail).after (goes_step (s := outside d) (b := quote) rfl)
      split
      next f failed => exact lands.strays failed
      next s rest read =>
        split
        · exact lands.goes read
        · exact (lands.goes read).strays (Nat.le_refl d)
    · exact strays_mismatch expected _

/-- A number lands also where it is refused. -/
theorem lands_visited {α : Type} (visit : Number → Except Cause α)
    {result : Except Fault (Number × List UInt8)}
    (lands : Lands (outside d) (outside d) bytes (stop result)) :
    Lands (outside d) (outside d) bytes (stop (match result with
      | .error f => .error f
      | .ok (n, rest) =>
        match visit n with
        | .ok a => .ok (a, rest)
        | .error cause => .error (.here cause rest))) := by
  cases result with
  | error f => exact lands.strays rfl
  | ok p =>
    have goes := lands.goes rfl
    dsimp only
    split
    · exact goes
    · exact goes.strays (Nat.le_refl d)

theorem lands_readNumberAs {α : Type} (expected : String) (visit : Number → Except Cause α)
    (bytes : List UInt8) :
    Lands (outside d) (outside d) bytes (stop (readNumberAs expected visit bytes)) := by
  have blanks := goes_blanks (d := d) bytes
  unfold readNumberAs
  cases ahead : skipBlanks bytes with
  | nil =>
    rw [ahead] at blanks
    exact blanks.strays (Nat.le_refl d)
  | cons b tail =>
    rw [ahead] at blanks
    refine Lands.after ?_ blanks
    simp only
    split_ifs with isMinus digits
    · subst isMinus
      exact lands_visited visit ((lands_signed false tail).after (goes_step rfl))
    · exact lands_visited visit (lands_digits true digits tail)
    · exact strays_mismatch expected _

theorem lands_readOptional {α : Type} {read : Reader α}
    (lands : ∀ bytes, Lands (outside d) (outside d) bytes (stop (read bytes))) (bytes : List UInt8) :
    Lands (outside d) (outside d) bytes (stop (readOptional read bytes)) := by
  have blanks := goes_blanks (d := d) bytes
  unfold readOptional
  cases ahead : skipBlanks bytes with
  | nil =>
    rw [ahead] at blanks
    exact ((lands []).after blanks).map fun _ => rfl
  | cons b tail =>
    rw [ahead] at blanks
    refine Lands.after ?_ blanks
    dsimp only
    split_ifs with isNull
    · subst isNull
      exact lands_letter none tail rfl rfl
    · exact (lands (b :: tail)).map fun _ => rfl

end RoomHub.Json
