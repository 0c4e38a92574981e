import RoomHub.Proofs.Json.Inversion

/-!
# Texts that are read can be passed over

Where a text is read, `skipValue` passes over it and stops at the same place
(`skipValue_of_readTextAs`).
-/

namespace RoomHub.Json

open Byte

variable {bytes rest : List UInt8}

/-! ### Texts -/

theorem skipText_of_skipEscape (h : skipEscape bytes = .ok rest) :
    skipText (backslash :: bytes) = skipText rest := by
  rw [skipText, if_neg (by decide), if_pos rfl]
  split
  next r passed => rw [Except.ok.inj (passed.symm.trans h)]
  next f failed => cases failed.symm.trans h

theorem skipEscape_of_readHex {n : Nat} (h : readHex bytes = .ok (n, rest)) :
    skipEscape (letterU :: bytes) = .ok rest := by
  rw [skipEscape, if_pos rfl, h]
  rfl

theorem skipText_of_readLowSurrogate {high : Nat} {c : Char}
    (h : readLowSurrogate high bytes = .ok (c, rest)) : skipText bytes = skipText rest := by
  unfold readLowSurrogate at h
  split at h
  next tail =>
    split at h
    next => cases h
    next low r hex =>
      split_ifs at h
      obtain ⟨-, rfl⟩ := Prod.mk.inj (Except.ok.inj h)
      exact skipText_of_skipEscape (skipEscape_of_readHex hex)
  all_goals cases h

/-- The escape may be a pair of escapes, which are passed over one by one. -/
theorem skipText_of_readEscape {c : Char} (h : readEscape bytes = .ok (c, rest)) :
    skipText (backslash :: bytes) = skipText rest := by
  unfold readEscape at h
  split at h
  · cases h
  next b tail =>
    split_ifs at h with numbered
    · subst numbered
      unfold readNumbered at h
      split at h
      next => cases h
      next n r hex =>
        rw [skipText_of_skipEscape (skipEscape_of_readHex hex)]
        split_ifs at h with low high
        · exact skipText_of_readLowSurrogate h
        · cases h
          rfl
    · split at h
      next c' found =>
        cases h
        refine skipText_of_skipEscape ?_
        rw [skipEscape, if_neg numbered, if_pos (by rw [found]; rfl)]
      next => cases h

theorem skipText_of_readBytes {content : List UInt8} (h : readBytes bytes = .ok (content, rest)) :
    skipText bytes = .ok rest := by
  fun_induction readBytes bytes generalizing content with
  | case1 => cases h
  | case2 tail =>
    cases h
    rw [skipText, if_pos rfl]
  | case3 => cases h
  | case4 => cases h
  | case5 tail c r escape content' r' more _ ih =>
    cases h
    rw [skipText_of_readEscape escape]
    exact ih more
  | case6 => cases h
  | case7 => cases h
  | case8 b tail hq hb hc content' r more ih =>
    cases h
    rw [skipText, if_neg hq, if_neg hb, if_neg hc]
    exact ih more

theorem skipText_of_readText {s : String} (h : readText bytes = .ok (s, rest)) :
    skipText bytes = .ok rest := by
  unfold readText at h
  split at h
  next => cases h
  next content r read =>
    split at h
    next =>
      cases h
      exact skipText_of_readBytes read
    next => cases h

/-! ### Values -/

theorem skipNested_value (stack : List Bracket) (bytes : List UInt8) :
    skipNested stack .value bytes = match skipBlanks bytes with
      | [] => .error (.ahead (.cutOff .value) [])
      | b :: rest =>
        if b = bracketOpen then skipNested (.array :: stack) (.closer false) rest
        else if b = braceOpen then skipNested (.object :: stack) (.closer false) rest
        else
          match skipScalar (b :: rest) with
          | .error f => .error f
          | .ok rest => skipNested stack (.closer true) rest := by
  rw [skipNested]
  split
  next none => simp only [none]
  next b tail ahead =>
    simp only [ahead]
    split_ifs
    · rfl
    · rfl
    split
    next failed => simp only [failed]
    next r passed => simp only [passed]

theorem skipValue_of_skipScalar {b : UInt8} {tail : List UInt8} (ahead : skipBlanks bytes = b :: tail)
    (noArray : b ≠ bracketOpen) (noObject : b ≠ braceOpen) (h : skipScalar (b :: tail) = .ok rest) :
    skipValue bytes = .ok rest := by
  rw [skipValue, skipNested_value, ahead]
  simp only [if_neg noArray, if_neg noObject, h]
  rw [skipNested]

theorem skipValue_of_readTextAs {α : Type} {expected : String} {visit : String → Except Cause α}
    {a : α} (h : readTextAs expected visit bytes = .ok (a, rest)) : skipValue bytes = .ok rest := by
  obtain ⟨tail, s, ahead, read, -⟩ := readTextAs_cases h
  exact skipValue_of_skipScalar ahead (by decide) (by decide) (skipText_of_readText read)

end RoomHub.Json
