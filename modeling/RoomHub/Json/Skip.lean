import RoomHub.Json.Text

/-!
# Passing over values

`skipValue` passes over one well formed value of any depth without keeping it.  The brackets that
are open stand in an explicit list, innermost first, so the depth of a value is no limit.
-/

namespace RoomHub.Json

open Byte

/-- Reads the rest of a word whose first letter has been read. -/
def readWord : List UInt8 → List UInt8 → Except Fault (List UInt8)
  | [], rest => .ok rest
  | _ :: _, [] => .error (.here (.cutOff .value) [])
  | w :: word, b :: rest => if b = w then readWord word rest else .error (.here .expectedWord rest)

/-- What follows the `n` of `null`. -/
def nullTail : List UInt8 := [letterU, 0x6c, 0x6c]

/-- What follows the `t` of `true`. -/
def trueTail : List UInt8 := [letterR, letterU, letterE]

/-- What follows the `f` of `false`. -/
def falseTail : List UInt8 := [0x61, 0x6c, 0x73, letterE]

/-- Passes over an exponent after its letter. -/
def skipExponent (bytes : List UInt8) : Except Fault (List UInt8) :=
  let bytes := match bytes with
    | plus :: rest => rest
    | minus :: rest => rest
    | _ => bytes
  match bytes with
  | [] => .error (.here .invalidNumber [])
  | b :: rest => if isDigit b then .ok (rest.dropWhile isDigit) else .error (.here .invalidNumber rest)

/-- Passes over an exponent, if there is one. -/
def skipScale : List UInt8 → Except Fault (List UInt8)
  | letterE :: rest => skipExponent rest
  | capitalE :: rest => skipExponent rest
  | rest => .ok rest

/-- Passes over a fraction and an exponent, as far as there are such. -/
def skipFraction : List UInt8 → Except Fault (List UInt8)
  | point :: b :: rest =>
    if isDigit b then skipScale (rest.dropWhile isDigit) else .error (.ahead .invalidNumber (b :: rest))
  | [point] => .error (.ahead .invalidNumber [])
  | rest => skipScale rest

/-- Passes over a number after its sign. -/
def skipNumber : List UInt8 → Except Fault (List UInt8)
  | [] => .error (.here .invalidNumber [])
  | b :: rest =>
    if b = zero then
      match rest with
      | d :: _ => if isDigit d then .error (.ahead .invalidNumber rest) else skipFraction rest
      | [] => .ok []
    else if isDigit b then skipFraction (rest.dropWhile isDigit)
    else .error (.here .invalidNumber rest)

/-- An open bracket. -/
inductive Bracket where
  | array
  | object
  deriving DecidableEq, Repr

/-- The byte that closes a bracket. -/
def Bracket.closer : Bracket → UInt8
  | .array => bracketClose
  | .object => braceClose

/-- What a text lacks that ends inside a bracket. -/
def Bracket.unfinished : Bracket → Unfinished
  | .array => .array
  | .object => .object

/-- The fault of a byte that neither continues nor closes a bracket. -/
def Bracket.expectedEnd : Bracket → Cause
  | .array => .expectedCommaOrEndOfArray
  | .object => .expectedCommaOrEndOfObject

/-- Passes over a value that is neither an array nor an object. -/
def skipScalar : List UInt8 → Except Fault (List UInt8)
  | [] => .error (.ahead (.cutOff .value) [])
  | b :: rest =>
    if b = letterN then readWord nullTail rest
    else if b = letterT then readWord trueTail rest
    else if b = letterF then readWord falseTail rest
    else if b = minus then skipNumber rest
    else if isDigit b then skipNumber (b :: rest)
    else if b = quote then skipText rest
    else .error (.ahead .expectedValue (b :: rest))

/-- Reads the colon between a name and its value. -/
def readColon (bytes : List UInt8) : Except Fault (List UInt8) :=
  match skipBlanks bytes with
  | [] => .error (.ahead (.cutOff .object) [])
  | b :: rest => if b = colon then .ok rest else .error (.ahead .expectedColon (b :: rest))

/-- Passes over the name of a member of an object and the colon after it. -/
def skipName (bytes : List UInt8) : Except Fault (List UInt8) :=
  match skipBlanks bytes with
  | [] => .error (.ahead (.cutOff .object) [])
  | b :: rest =>
    if b = quote then
      match skipText rest with
      | .ok rest => readColon rest
      | .error f => .error f
    else .error (.ahead .keyNotText (b :: rest))

/-! ### What is passed over is not empty -/

theorem length_skipBlanks (bytes : List UInt8) : (skipBlanks bytes).length ≤ bytes.length :=
  (List.dropWhile_suffix isBlank).length_le

theorem length_dropDigits (bytes : List UInt8) : (bytes.dropWhile isDigit).length ≤ bytes.length :=
  (List.dropWhile_suffix isDigit).length_le

theorem readWord_length {word bytes rest : List UInt8} (h : readWord word bytes = .ok rest) :
    rest.length ≤ bytes.length := by
  induction word generalizing bytes with
  | nil =>
    simp only [readWord, Except.ok.injEq] at h
    exact h ▸ Nat.le_refl _
  | cons w word ih =>
    cases bytes with
    | nil => simp [readWord] at h
    | cons b tail =>
      simp only [readWord] at h
      split at h
      · have := ih h
        simp
        omega
      · simp at h

theorem skipExponent_length {bytes rest : List UInt8} (h : skipExponent bytes = .ok rest) :
    rest.length ≤ bytes.length := by
  unfold skipExponent at h
  simp only at h
  split at h
  · simp at h
  · rename_i b tail hb
    split at h <;> simp at h
    have hd := length_dropDigits tail
    rw [h] at hd
    split at hb <;> simp_all
    all_goals omega

theorem skipScale_length {bytes rest : List UInt8} (h : skipScale bytes = .ok rest) :
    rest.length ≤ bytes.length := by
  unfold skipScale at h
  split at h
  · have := skipExponent_length h; simp; omega
  · have := skipExponent_length h; simp; omega
  · simp only [Except.ok.injEq] at h
    exact h ▸ Nat.le_refl _

theorem skipFraction_length {bytes rest : List UInt8} (h : skipFraction bytes = .ok rest) :
    rest.length ≤ bytes.length := by
  unfold skipFraction at h
  split at h
  · rename_i b tail
    split at h
    · have := skipScale_length h
      have := length_dropDigits tail
      simp
      omega
    · simp at h
  · simp at h
  · exact skipScale_length h

theorem skipNumber_length {bytes rest : List UInt8} (h : skipNumber bytes = .ok rest) :
    rest.length < bytes.length := by
  unfold skipNumber at h
  split at h
  · simp at h
  · rename_i b tail
    split at h
    · split at h
      · split at h
        · simp at h
        · have := skipFraction_length h
          simp at *
          omega
      · simp at h
        simp [h]
    · split at h
      · have := skipFraction_length h
        have := length_dropDigits tail
        simp
        omega
      · simp at h

theorem skipText_length {bytes rest : List UInt8} (h : skipText bytes = .ok rest) :
    rest.length < bytes.length := by
  fun_induction skipText bytes with
  | case1 => simp at h
  | case2 =>
    simp at h
    simp [h]
  | case3 tail r hr _ ih =>
    have := skipEscape_length hr
    have := ih h
    simp
    omega
  | case4 => simp at h
  | case5 => simp at h
  | case6 b tail _ _ _ ih =>
    have := ih h
    simp
    omega

theorem skipScalar_length {bytes rest : List UInt8} (h : skipScalar bytes = .ok rest) :
    rest.length < bytes.length := by
  unfold skipScalar at h
  split at h
  · simp at h
  · rename_i b tail
    have word {w : List UInt8} (h : readWord w tail = .ok rest) : rest.length < (b :: tail).length := by
      have := readWord_length h
      simp
      omega
    split at h
    · exact word h
    split at h
    · exact word h
    split at h
    · exact word h
    split at h
    · have := skipNumber_length h
      simp
      omega
    split at h
    · exact skipNumber_length h
    split at h
    · have := skipText_length h
      simp
      omega
    · simp at h

theorem readColon_length {bytes rest : List UInt8} (h : readColon bytes = .ok rest) :
    rest.length < bytes.length := by
  have hs := length_skipBlanks bytes
  unfold readColon at h
  split at h
  · simp at h
  · rename_i b tail hb
    split at h <;> simp at h
    rw [hb] at hs
    rw [← h]
    simp at hs
    omega

theorem skipName_length {bytes rest : List UInt8} (h : skipName bytes = .ok rest) :
    rest.length < bytes.length := by
  have hs := length_skipBlanks bytes
  unfold skipName at h
  split at h
  · simp at h
  · rename_i b tail hb
    rw [hb] at hs
    split at h
    · split at h
      · rename_i r hr
        have := skipText_length hr
        have := readColon_length h
        simp at hs
        omega
      · simp at h
    · simp at h

/-! ### Nested values -/

/-- What comes next inside the open brackets. -/
inductive Next where
  /-- A value. -/
  | value
  /-- A closing bracket or, after a value, a comma. -/
  | closer (afterValue : Bool)
  deriving DecidableEq

/-- A value can follow a closing bracket that did not come, without a byte between them. -/
def Next.rank : Next → Nat
  | .value => 0
  | .closer _ => 1

/-- Passes over what is left of the values inside the open brackets `stack`. -/
def skipNested (stack : List Bracket) (next : Next) (bytes : List UInt8) :
    Except Fault (List UInt8) :=
  match next with
  | .value =>
    match _hb : skipBlanks bytes with
    | [] => .error (.ahead (.cutOff .value) [])
    | b :: rest =>
      have := length_skipBlanks bytes
      if b = bracketOpen then skipNested (.array :: stack) (.closer false) rest
      else if b = braceOpen then skipNested (.object :: stack) (.closer false) rest
      else
        match _hs : skipScalar (b :: rest) with
        | .error f => .error f
        | .ok rest => skipNested stack (.closer true) rest
  | .closer afterValue =>
    match stack with
    | [] => .ok bytes
    | top :: outer =>
      match _hb : skipBlanks bytes with
      | [] => .error (.ahead (.cutOff top.unfinished) [])
      | b :: rest =>
        have := length_skipBlanks bytes
        if b = comma ∧ afterValue = true then
          match top with
          | .array => skipNested (top :: outer) .value rest
          | .object =>
            match _hn : skipName rest with
            | .error f => .error f
            | .ok rest => skipNested (top :: outer) .value rest
        else if b = top.closer then skipNested outer (.closer true) rest
        else if afterValue then .error (.ahead top.expectedEnd (b :: rest))
        else
          match top with
          | .array => skipNested (top :: outer) .value (b :: rest)
          | .object =>
            match _hn : skipName (b :: rest) with
            | .error f => .error f
            | .ok rest => skipNested (top :: outer) .value rest
  termination_by 2 * bytes.length + next.rank
  decreasing_by
    all_goals simp_wf
    all_goals simp only [_hb, List.length_cons] at this
    all_goals try have := skipScalar_length _hs
    all_goals try have := skipName_length _hn
    all_goals simp only [List.length_cons, Next.rank] at *
    all_goals omega

/-- Passes over one value. -/
def skipValue (bytes : List UInt8) : Except Fault (List UInt8) :=
  skipNested [] .value bytes

end RoomHub.Json
