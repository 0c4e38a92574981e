import Mathlib.Tactic.SplitIfs
import RoomHub.Json.Value

/-!
# Where a byte of a text stands

`Mode.next` tells from byte to byte what may come next: something between the parts of values, the
rest of a word or of a number, or a part of a text.  A `Spot` has a mode and the number of brackets
that are open.  Every reader of JSON takes its bytes as `Spot.scan` allows it, which stops at a byte
that can stand in no JSON text (`Stray.junk`) and at a comma or closing bracket that does not belong
to the value (`Stray.under`).

`Spot.Goes` is the course of a reader that succeeds, `Spot.Strays` that of one that fails: it may stop
anywhere, but no further out than it began.  `Lands` has both.
-/

namespace RoomHub.Json

open Byte Text

/-! ### Modes -/

/-- What a byte is part of. -/
inductive Mode where
  /-- What stands between the parts of values, and the digits of a number. -/
  | outside
  /-- A word, by the letters that are left. -/
  | word (letter : UInt8) (left : List UInt8)
  /-- The start of an exponent. -/
  | exponent
  /-- A digit that must come. -/
  | digit
  | text
  | escape
  /-- A numbered escape, by the number of digits that are left after the next one. -/
  | hex (left : Nat)
  deriving DecidableEq

namespace Mode

/-- The rest of a word. -/
def ofWord : List UInt8 → Mode
  | [] => .outside
  | letter :: left => .word letter left

/-- The rest of a numbered escape. -/
def ofHex : Nat → Mode
  | 0 => .text
  | left + 1 => .hex left

/-- Words have small letters only. -/
def isLetter (b : UInt8) : Bool := 0x61 ≤ b && b ≤ 0x7a

/-- The mode after a byte, if the byte can stand here. -/
def next : Mode → UInt8 → Option Mode
  | .outside, b =>
    if b = quote then some .text
    else if b = letterN then some (.ofWord nullTail)
    else if b = letterT then some (.ofWord trueTail)
    else if b = letterF then some (.ofWord falseTail)
    else if b = letterE ∨ b = capitalE then some .exponent
    else if b = minus ∨ b = point then some .digit
    else if isBlank b ∨ isDigit b ∨
        b ∈ [comma, colon, bracketOpen, bracketClose, braceOpen, braceClose] then some .outside
    else none
  | .word letter left, b => if b = letter ∧ isLetter b then some (.ofWord left) else none
  | .exponent, b =>
    if b = plus ∨ b = minus then some .digit
    else if isDigit b then some .outside
    else none
  | .digit, b => if isDigit b then some .outside else none
  | .text, b =>
    if b = quote then some .outside
    else if b = backslash then some .escape
    else if b < 0x20 then none
    else some .text
  | .escape, b =>
    if b = letterU then some (.hex 3)
    else if (simpleEscape? b).isSome then some .text
    else none
  | .hex left, b => if (hexValue? b).isSome then some (.ofHex left) else none

end Mode

/-! ### Spots -/

/-- A mode, and how many brackets are open. -/
structure Spot where
  mode : Mode
  depth : Nat
  deriving DecidableEq

/-- Why a byte is not scanned. -/
inductive Stray where
  /-- It cannot stand there. -/
  | junk
  /-- It belongs to a bracket further out. -/
  | under
  deriving DecidableEq

/-- How many brackets are open after a byte that is no part of a text, a number or a word. -/
def depthAfter (depth : Nat) (b : UInt8) : Option Nat :=
  if b = bracketOpen ∨ b = braceOpen then some (depth + 1)
  else if b = bracketClose ∨ b = braceClose then
    match depth with
    | 0 => none
    | depth + 1 => some depth
  else if b = comma ∧ depth = 0 then none
  else some depth

section Depth

variable {d e : Nat} {b : UInt8}

/-- A byte closes at most one bracket, and only a closing bracket does so. -/
theorem le_of_depthAfter (h : depthAfter d b = some e) :
    d ≤ e + 1 ∧ (b ≠ bracketClose → b ≠ braceClose → d ≤ e) := by
  unfold depthAfter at h
  split_ifs at h with opens closes
  · cases h
    omega
  · cases d with
    | zero => cases h
    | succ d =>
      cases h
      exact ⟨Nat.le_refl _, fun noBracket noBrace => (closes.elim noBracket noBrace).elim⟩
  · cases h
    omega

theorem eq_zero_of_depthAfter (h : depthAfter d b = none) : d = 0 := by
  unfold depthAfter at h
  split_ifs at h with opens closes separates
  · cases d with
    | zero => rfl
    | succ d => cases h
  · exact separates.2

theorem depthAfter_succ (h : depthAfter d b = some e) : depthAfter (d + 1) b = some (e + 1) := by
  unfold depthAfter at h ⊢
  split_ifs at h ⊢ with opens closes separates
  · cases h
    rfl
  · cases d with
    | zero => cases h
    | succ d =>
      cases h
      rfl
  · exact separates.2.elim
  · cases h
    rfl

end Depth

namespace Spot

/-- Between the parts of values. -/
abbrev outside (depth : Nat) : Spot := ⟨.outside, depth⟩

/-- Inside a text. -/
abbrev inside (depth : Nat) : Spot := ⟨.text, depth⟩

/-- The spot after a byte. -/
def step (s : Spot) (b : UInt8) : Except Stray Spot :=
  match s.mode.next b with
  | none => .error .junk
  | some mode =>
    if s.mode = .outside then
      match depthAfter s.depth b with
      | none => .error .under
      | some depth => .ok ⟨mode, depth⟩
    else .ok ⟨mode, s.depth⟩

/-- The spot after some bytes. -/
def scan : Spot → List UInt8 → Except Stray Spot
  | s, [] => .ok s
  | s, b :: bytes =>
    match s.step b with
    | .error stray => .error stray
    | .ok t => t.scan bytes

/-- One bracket more around a spot. -/
def raise (s : Spot) : Spot := ⟨s.mode, s.depth + 1⟩

variable {s t u : Spot} {d e : Nat} {b : UInt8} {bytes more rest : List UInt8}

theorem step_of_next {mode : Mode} (h : s.mode.next b = some mode) (other : s.mode ≠ .outside) :
    s.step b = .ok ⟨mode, s.depth⟩ := by
  rw [step, h]
  exact if_neg other

theorem step_of_none (h : s.mode.next b = none) : s.step b = .error .junk := by
  rw [step, h]

/-- What a step says: the mode goes on, and brackets count between the parts of values only. -/
theorem step_eq_ok_iff : s.step b = .ok t ↔ s.mode.next b = some t.mode ∧
    (s.mode = .outside ∧ depthAfter s.depth b = some t.depth ∨
      s.mode ≠ .outside ∧ s.depth = t.depth) := by
  obtain ⟨mode, depth⟩ := t
  unfold step
  split
  next none => simp [none]
  next mode' found =>
    simp only [found, Option.some.injEq]
    split_ifs with between
    · split
      next none => simp [none, between]
      next depth' after => simp [after, between]
    · simp [between]

theorem depth_step (h : s.step b = .ok t) :
    s.depth ≤ t.depth + 1 ∧ (b ≠ bracketClose → b ≠ braceClose → s.depth ≤ t.depth) := by
  obtain ⟨-, ⟨-, after⟩ | ⟨-, same⟩⟩ := step_eq_ok_iff.mp h
  · exact le_of_depthAfter after
  · omega

theorem depth_of_under (h : s.step b = .error .under) : s.depth = 0 := by
  unfold step at h
  split at h
  next => cases h
  next mode found =>
    split_ifs at h
    split at h
    next after => exact eq_zero_of_depthAfter after
    next => cases h

theorem next_of_junk (h : s.step b = .error .junk) : s.mode.next b = none := by
  unfold step at h
  split at h
  next none => exact none
  next mode found =>
    split_ifs at h
    split at h <;> cases h

theorem step_raise_of_ok (h : s.step b = .ok t) : s.raise.step b = .ok t.raise := by
  obtain ⟨found, ⟨between, after⟩ | ⟨other, same⟩⟩ := step_eq_ok_iff.mp h
  · exact step_eq_ok_iff.mpr ⟨found, .inl ⟨between, depthAfter_succ after⟩⟩
  · exact step_eq_ok_iff.mpr ⟨found, .inr ⟨other, congrArg (· + 1) same⟩⟩

theorem step_raise_of_junk (h : s.step b = .error .junk) : s.raise.step b = .error .junk := by
  have none := next_of_junk h
  exact step_of_none none

/-! ### Scanning -/

theorem scan_append : s.scan (bytes ++ more) = match s.scan bytes with
    | .error stray => .error stray
    | .ok t => t.scan more := by
  induction bytes generalizing s with
  | nil => rfl
  | cons b bytes ih =>
    rw [List.cons_append, scan, scan]
    cases s.step b with
    | error stray => rfl
    | ok t => exact ih

theorem scan_append_of_ok (h : s.scan bytes = .ok t) : s.scan (bytes ++ more) = t.scan more := by
  rw [scan_append, h]

/-- A part of what is scanned is scanned. -/
theorem exists_of_scan_append (h : s.scan (bytes ++ more) = .ok u) :
    ∃ t, s.scan bytes = .ok t ∧ t.scan more = .ok u := by
  rw [scan_append] at h
  split at h
  next => cases h
  next t first => exact ⟨t, first, h⟩

theorem scan_cons_of_step (h : s.step b = .ok t) : s.scan (b :: bytes) = t.scan bytes := by
  rw [scan, h]

theorem scan_raise_of_ok (h : s.scan bytes = .ok t) : s.raise.scan bytes = .ok t.raise := by
  induction bytes generalizing s with
  | nil =>
    cases h
    rfl
  | cons b bytes ih =>
    rw [scan] at h ⊢
    split at h
    next => cases h
    next u first =>
      rw [step_raise_of_ok first]
      exact ih h

theorem scan_raise_of_junk (h : s.scan bytes = .error .junk) : s.raise.scan bytes = .error .junk := by
  induction bytes generalizing s with
  | nil => cases h
  | cons b bytes ih =>
    rw [scan] at h ⊢
    split at h
    next stray first =>
      cases h
      rw [step_raise_of_junk first]
    next u first =>
      rw [step_raise_of_ok first]
      exact ih h

/-! ### The course of a reader -/

/-- The bytes up to `rest` lead from one spot to another. -/
def Goes (s : Spot) (bytes : List UInt8) (t : Spot) (rest : List UInt8) : Prop :=
  ∃ taken, bytes = taken ++ rest ∧ s.scan taken = .ok t

/-- The bytes up to `rest` lead to some spot with at least `d` open brackets, if they lead
anywhere. -/
def Strays (s : Spot) (d : Nat) (bytes rest : List UInt8) : Prop :=
  ∃ taken, bytes = taken ++ rest ∧
    (s.scan taken = .error .junk ∨ ∃ t, s.scan taken = .ok t ∧ d ≤ t.depth)

theorem Goes.refl (s : Spot) (bytes : List UInt8) : s.Goes bytes s bytes := ⟨[], rfl, rfl⟩

theorem Goes.trans (first : s.Goes bytes t more) (second : t.Goes more u rest) :
    s.Goes bytes u rest := by
  obtain ⟨taken, rfl, leads⟩ := first
  obtain ⟨taken', rfl, leads'⟩ := second
  exact ⟨taken ++ taken', (List.append_assoc ..).symm, (scan_append_of_ok leads).trans leads'⟩

theorem goes_step (h : s.step b = .ok t) : s.Goes (b :: rest) t rest :=
  ⟨[b], rfl, scan_cons_of_step h⟩

theorem Goes.cons (h : s.step b = .ok t) (more : t.Goes bytes u rest) : s.Goes (b :: bytes) u rest :=
  (goes_step h).trans more

theorem Goes.scan (goes : s.Goes bytes t rest) : s.scan bytes = t.scan rest := by
  obtain ⟨taken, rfl, leads⟩ := goes
  exact scan_append_of_ok leads

theorem Strays.refl (enough : d ≤ s.depth) (bytes : List UInt8) : s.Strays d bytes bytes :=
  ⟨[], rfl, .inr ⟨s, rfl, enough⟩⟩

theorem Goes.strays (goes : s.Goes bytes t rest) (enough : d ≤ t.depth) : s.Strays d bytes rest := by
  obtain ⟨taken, rfl, leads⟩ := goes
  exact ⟨taken, rfl, .inr ⟨t, leads, enough⟩⟩

theorem Strays.after (more : t.Strays d bytes rest) {all : List UInt8} (goes : s.Goes all t bytes) :
    s.Strays d all rest := by
  obtain ⟨taken, rfl, leads⟩ := goes
  obtain ⟨taken', rfl, leads'⟩ := more
  refine ⟨taken ++ taken', (List.append_assoc ..).symm, ?_⟩
  rwa [scan_append_of_ok leads]

theorem Strays.mono (strays : s.Strays d bytes rest) (less : e ≤ d) : s.Strays e bytes rest := by
  obtain ⟨taken, rfl, junk | ⟨t, leads, enough⟩⟩ := strays
  · exact ⟨taken, rfl, .inl junk⟩
  · exact ⟨taken, rfl, .inr ⟨t, leads, Nat.le_trans less enough⟩⟩

theorem strays_of_junk (h : s.step b = .error .junk) : s.Strays d (b :: rest) rest :=
  ⟨[b], rfl, .inl (by rw [Spot.scan, h])⟩

/-- One more byte closes at most one bracket, and only a closing bracket does so. -/
theorem Strays.pass (strays : s.Strays (d + 1) bytes (b :: rest)) :
    s.Strays d bytes rest ∧
      (b ≠ bracketClose → b ≠ braceClose → s.Strays (d + 1) bytes rest) := by
  obtain ⟨taken, rfl, leads⟩ := strays
  have split : taken ++ b :: rest = (taken ++ [b]) ++ rest := by
    rw [List.append_assoc, List.singleton_append]
  rw [split]
  obtain junk | ⟨t, leads, enough⟩ := leads
  · have junk : s.scan (taken ++ [b]) = .error .junk := by rw [scan_append, junk]
    exact ⟨⟨_, rfl, .inl junk⟩, fun _ _ => ⟨_, rfl, .inl junk⟩⟩
  · have last : s.scan (taken ++ [b]) = t.scan [b] := scan_append_of_ok leads
    rw [Spot.scan] at last
    split at last
    next stray first =>
      cases stray with
      | junk => exact ⟨⟨_, rfl, .inl last⟩, fun _ _ => ⟨_, rfl, .inl last⟩⟩
      | under =>
        have := depth_of_under first
        omega
    next u first =>
      have ⟨falls, keeps⟩ := depth_step first
      exact ⟨⟨_, rfl, .inr ⟨u, last, by omega⟩⟩, fun noBracket noBrace =>
        ⟨_, rfl, .inr ⟨u, last, Nat.le_trans enough (keeps noBracket noBrace)⟩⟩⟩

theorem Strays.blanks (strays : s.Strays (d + 1) bytes rest) :
    s.Strays (d + 1) bytes (skipBlanks rest) := by
  induction rest with
  | nil => exact strays
  | cons b rest ih =>
    by_cases blank : isBlank b = true
    · rw [skipBlanks, List.dropWhile_cons_of_pos blank]
      refine ih (strays.pass.2 ?_ ?_)
      · rintro rfl
        cases blank
      · rintro rfl
        cases blank
    · rwa [skipBlanks, List.dropWhile_cons_of_neg blank]

/-- A byte of a text, a number or a word leaves the brackets alone. -/
theorem strays_byte (other : s.mode ≠ .outside) (b : UInt8) (rest : List UInt8) :
    s.Strays s.depth (b :: rest) rest := by
  cases h : s.mode.next b with
  | none => exact strays_of_junk (step_of_none h)
  | some mode => exact (goes_step (step_of_next h other)).strays (Nat.le_refl _)

/-- Where strayed bytes are part of what is scanned, they lead somewhere. -/
theorem Strays.leads (strays : s.Strays d bytes rest) (scanned : s.scan bytes = .ok u) :
    ∃ t, s.Goes bytes t rest ∧ t.scan rest = .ok u ∧ d ≤ t.depth := by
  obtain ⟨taken, rfl, leads⟩ := strays
  obtain ⟨t, first, more⟩ := exists_of_scan_append scanned
  obtain junk | ⟨t', leads, enough⟩ := leads
  · cases first.symm.trans junk
  · cases first.symm.trans leads
    exact ⟨t, ⟨taken, rfl, first⟩, more, enough⟩

/-- Bytes that lead back to where they began, and never further out, lead back without the outermost
bracket. -/
theorem Strays.lower (strays : s.Strays d bytes rest) (goes : s.raise.Goes bytes t.raise rest) :
    s.Goes bytes t rest := by
  obtain ⟨taken, rfl, leads⟩ := strays
  obtain ⟨taken', same, raised⟩ := goes
  obtain rfl := List.append_cancel_right same
  obtain junk | ⟨u, leads, -⟩ := leads
  · cases raised.symm.trans (scan_raise_of_junk junk)
  · have raised' := (raised.symm.trans (scan_raise_of_ok leads))
    obtain ⟨mode, depth⟩ := t
    obtain ⟨mode', depth'⟩ := u
    simp only [raise, Except.ok.injEq, Spot.mk.injEq, Nat.add_right_cancel_iff] at raised'
    obtain ⟨rfl, rfl⟩ := raised'
    exact ⟨taken, rfl, leads⟩

theorem step_blank (blank : isBlank b = true) : (outside d).step b = .ok (outside d) := by
  simp only [Byte.isBlank, Bool.or_eq_true, beq_iff_eq] at blank
  obtain ((rfl | rfl) | rfl) | rfl := blank <;> rfl

end Spot

/-- A reader that succeeds leads from one spot to another; one that fails strays no further out than
the latter. -/
def Lands (s t : Spot) (bytes : List UInt8) : Except Fault (List UInt8) → Prop
  | .ok rest => s.Goes bytes t rest
  | .error f => s.Strays t.depth bytes f.rest

/-- Where a reader stops. -/
def stop {α : Type} (result : Except Fault (α × List UInt8)) : Except Fault (List UInt8) :=
  result.map Prod.snd

section Landing

variable {s t u : Spot} {bytes rest : List UInt8} {result : Except Fault (List UInt8)} {α β : Type}

theorem Lands.after (lands : Lands t u rest result) (goes : s.Goes bytes t rest) :
    Lands s u bytes result := by
  cases result with
  | ok rest => exact goes.trans lands
  | error f => exact Spot.Strays.after lands goes

theorem Lands.goes {result : Except Fault (α × List UInt8)} {a : α}
    (lands : Lands s t bytes (stop result)) (h : result = .ok (a, rest)) : s.Goes bytes t rest := by
  rwa [h] at lands

theorem Lands.strays {result : Except Fault (α × List UInt8)} {f : Fault}
    (lands : Lands s t bytes (stop result)) (h : result = .error f) :
    s.Strays t.depth bytes f.rest := by
  rwa [h] at lands

theorem Lands.map {result : Except Fault (α × List UInt8)} {f : α × List UInt8 → β × List UInt8}
    (lands : Lands s t bytes (stop result)) (same : ∀ p, (f p).2 = p.2) :
    Lands s t bytes (stop (result.map f)) := by
  cases result with
  | ok p =>
    show s.Goes bytes t (f p).2
    rw [same p]
    exact lands
  | error f => exact lands

theorem lands_map_const {a : α} : Lands s t bytes (stop (result.map (a, ·))) ↔ Lands s t bytes result := by
  cases result <;> rfl

end Landing

/-! ### Separators -/

/-- What comes between members can stand only between the parts of values or in a text. -/
theorem Mode.eq_of_separator {m m' : Mode} {b : UInt8}
    (separates : isBlank b = true ∨ b = comma ∨ b = braceClose) (h : m.next b = some m') :
    m = .outside ∨ m = .text := by
  simp only [Byte.isBlank, Bool.or_eq_true, beq_iff_eq] at separates
  cases m with
  | outside => exact .inl rfl
  | text => exact .inr rfl
  | word letter left =>
    simp only [next] at h
    split_ifs at h with found
    obtain (((rfl | rfl) | rfl) | rfl) | rfl | rfl := separates <;> cases found.2
  | exponent | digit | escape | hex left =>
    obtain (((rfl | rfl) | rfl) | rfl) | rfl | rfl := separates <;> cases h

theorem Spot.eq_of_separator {s u : Spot} {b : UInt8} {bytes tail : List UInt8}
    (ahead : skipBlanks bytes = b :: tail) (separates : b = comma ∨ b = braceClose)
    (scanned : s.scan bytes = .ok u) : s.mode = .outside ∨ s.mode = .text := by
  cases bytes with
  | nil => cases ahead
  | cons c bytes =>
    have separates : isBlank c = true ∨ c = comma ∨ c = braceClose := by
      by_cases blank : isBlank c = true
      · exact .inl blank
      · rw [skipBlanks, List.dropWhile_cons_of_neg blank] at ahead
        exact .inr ((List.cons.inj ahead).1 ▸ separates)
    rw [Spot.scan] at scanned
    split at scanned
    next => cases scanned
    next t first => exact Mode.eq_of_separator separates (step_eq_ok_iff.mp first).1

/-- Separators come only behind what is scanned without a bracket around it. -/
theorem Spot.skipBlanks_of_scan {t : Spot} {b : UInt8} {taken rest tail : List UInt8}
    (scanned : (outside 0).scan taken = .ok t) (ahead : skipBlanks (taken ++ rest) = b :: tail)
    (separates : b = comma ∨ b = braceClose) : skipBlanks (taken ++ rest) = skipBlanks rest := by
  induction taken with
  | nil => rfl
  | cons c taken ih =>
    rw [Spot.scan] at scanned
    rw [List.cons_append] at ahead ⊢
    by_cases blank : isBlank c = true
    · rw [skipBlanks, List.dropWhile_cons_of_pos blank] at ahead ⊢
      rw [step_blank blank] at scanned
      exact ih scanned ahead
    · rw [skipBlanks, List.dropWhile_cons_of_neg blank] at ahead
      rw [(List.cons.inj ahead).1] at scanned
      obtain rfl | rfl := separates <;> cases scanned

/-- Two readers that both stop in front of a separator stop at the same place but for blanks. -/
theorem Spot.Goes.skipBlanks_eq {b c : UInt8} {bytes p q ps qs : List UInt8}
    (first : (outside 0).Goes bytes (outside 0) p) (second : (outside 0).Goes bytes (outside 0) q)
    (ahead : skipBlanks p = b :: ps) (separates : b = comma ∨ b = braceClose)
    (ahead' : skipBlanks q = c :: qs) (separates' : c = comma ∨ c = braceClose) :
    skipBlanks p = skipBlanks q := by
  obtain ⟨taken, rfl, leads⟩ := first
  obtain ⟨taken', same, leads'⟩ := second
  obtain ⟨more, rfl, rfl⟩ | ⟨more, rfl, rfl⟩ := List.append_eq_append_iff.mp same
  · rw [scan_append_of_ok leads] at leads'
    exact skipBlanks_of_scan leads' ahead separates
  · rw [scan_append_of_ok leads'] at leads
    exact (skipBlanks_of_scan leads ahead' separates').symm

/-! ### Inside out -/

namespace Mode

/-- What is no part of a text. -/
def isOpen : Mode → Bool
  | .text | .escape | .hex _ => false
  | _ => true

/-- One is inside a text where the other is not. -/
def Flipped (m n : Mode) : Prop :=
  m = .text ∧ n.isOpen = true ∨ m.isOpen = true ∧ n = .text

variable {m n m' n' : Mode} {b : UInt8}

theorem isOpen_ofWord (word : List UInt8) : (ofWord word).isOpen = true := by
  cases word <;> rfl

/-- Outside texts a quote opens a text, and there are no escapes. -/
theorem next_of_isOpen (isOpen : m.isOpen = true) (h : m.next b = some m') :
    b = quote ∧ m' = .text ∨ b ≠ quote ∧ b ≠ backslash ∧ m'.isOpen = true := by
  have digit (digits : isDigit b = true) : b ≠ quote ∧ b ≠ backslash := by
    constructor <;> rintro rfl <;> cases digits
  cases m with
  | outside =>
    simp only [next] at h
    split_ifs at h with isText isNull isTrue isFalse exponent fraction visible
    · exact .inl ⟨isText, (Option.some.inj h).symm⟩
    all_goals
      cases h
      refine .inr ⟨isText, ?_, ?_⟩
    · exact isNull ▸ by decide
    · rfl
    · exact isTrue ▸ by decide
    · rfl
    · exact isFalse ▸ by decide
    · rfl
    · obtain rfl | rfl := exponent <;> decide
    · rfl
    · obtain rfl | rfl := fraction <;> decide
    · rfl
    · rintro rfl
      exact absurd visible (by decide)
    · rfl
  | word letter left =>
    simp only [next] at h
    split_ifs at h with found
    cases h
    have letters := found.2
    refine .inr ⟨?_, ?_, isOpen_ofWord left⟩ <;> rintro rfl <;> cases letters
  | exponent =>
    simp only [next] at h
    split_ifs at h with sign digits
    · cases h
      obtain rfl | rfl := sign <;> decide
    · cases h
      exact .inr ⟨(digit digits).1, (digit digits).2, rfl⟩
  | digit =>
    simp only [next] at h
    split_ifs at h with digits
    cases h
    exact .inr ⟨(digit digits).1, (digit digits).2, rfl⟩
  | text | escape | hex left => cases isOpen

theorem next_text (noBackslash : b ≠ backslash) (h : Mode.text.next b = some m') :
    b = quote ∧ m' = .outside ∨ b ≠ quote ∧ m' = .text := by
  simp only [next] at h
  split_ifs at h with isText
  · exact .inl ⟨isText, (Option.some.inj h).symm⟩
  · exact .inr ⟨isText, (Option.some.inj h).symm⟩

theorem Flipped.next (flipped : Flipped m n) (first : m.next b = some m')
    (second : n.next b = some n') : Flipped m' n' := by
  -- a quote turns both, and no escape hides it
  have turn {m n m' n' : Mode} (isText : m = .text) (isOpen : n.isOpen = true)
      (first : m.next b = some m') (second : n.next b = some n') : Flipped m' n' := by
    subst isText
    obtain ⟨rfl, rfl⟩ | ⟨noQuote, noBackslash, still⟩ := next_of_isOpen isOpen second
    · cases first
      exact .inr ⟨rfl, rfl⟩
    · obtain ⟨isQuote, -⟩ | ⟨-, rfl⟩ := next_text noBackslash first
      · exact absurd isQuote noQuote
      · exact .inl ⟨rfl, still⟩
  obtain ⟨isText, isOpen⟩ | ⟨isOpen, isText⟩ := flipped
  · exact turn isText isOpen first second
  · exact Or.symm ((turn isText isOpen second first).imp And.symm And.symm)

end Mode

theorem Mode.Flipped.eq_text {m : Mode} (flipped : Mode.outside.Flipped m) : m = .text :=
  flipped.elim (fun h => nomatch h.1) And.right

/-- Two scans of the same bytes stay flipped. -/
theorem Spot.flipped_scan {s t s' t' : Spot} {bytes : List UInt8}
    (flipped : s.mode.Flipped t.mode) (first : s.scan bytes = .ok s')
    (second : t.scan bytes = .ok t') : s'.mode.Flipped t'.mode := by
  induction bytes generalizing s t with
  | nil =>
    cases first
    cases second
    exact flipped
  | cons b bytes ih =>
    rw [Spot.scan] at first second
    split at first
    next => cases first
    next u one =>
      split at second
      next => cases second
      next v other =>
        exact ih (flipped.next (step_eq_ok_iff.mp one).1 (step_eq_ok_iff.mp other).1) first second

theorem Spot.Goes.flipped {s t real u : Spot} {bytes rest : List UInt8} (goes : s.Goes bytes t rest)
    (flipped : s.mode.Flipped real.mode) (scanned : real.scan bytes = .ok u) :
    ∃ real' : Spot, t.mode.Flipped real'.mode ∧ real'.scan rest = .ok u := by
  obtain ⟨taken, rfl, leads⟩ := goes
  obtain ⟨real', first, more⟩ := exists_of_scan_append scanned
  exact ⟨real', flipped_scan flipped leads first, more⟩

end RoomHub.Json
