/-!
# Blanks

`isBlank` is the Unicode property White_Space.  Texts are trimmed and split into words at blanks;
`trim_trim` says that trimming is idempotent, which makes trimmed texts canonical.
-/

namespace RoomHub.Text

/-- The 25 characters with the property White_Space. -/
def isBlank (c : Char) : Bool :=
  let n := c.toNat
  (0x09 ≤ n && n ≤ 0x0d) || n == 0x20 || n == 0x85 || n == 0xa0 || n == 0x1680 ||
    (0x2000 ≤ n && n ≤ 0x200a) || n == 0x2028 || n == 0x2029 || n == 0x202f || n == 0x205f ||
    n == 0x3000

/-- Drops the blanks at the end. -/
def trimEnd (cs : List Char) : List Char :=
  (cs.reverse.dropWhile isBlank).reverse

/-- Drops the blanks at both ends. -/
def trimChars (cs : List Char) : List Char :=
  trimEnd (cs.dropWhile isBlank)

/-- Drops the blanks at both ends of a text. -/
def trim (s : String) : String :=
  String.ofList (trimChars s.toList)

/-- A text that is empty after trimming. -/
def isBlankText (s : String) : Bool :=
  s.toList.all isBlank

/-- The maximal runs of characters that are not blank; `word` is the run read so far. -/
def wordsFrom (word : List Char) : List Char → List (List Char)
  | [] => if word.isEmpty then [] else [word]
  | c :: cs =>
    if isBlank c then
      if word.isEmpty then wordsFrom [] cs else word :: wordsFrom [] cs
    else wordsFrom (word ++ [c]) cs

/-- The words of a text, without the blanks between and around them. -/
def words (s : String) : List String :=
  (wordsFrom [] s.toList).map String.ofList

/-! ### Trimming is idempotent -/

theorem dropWhile_isBlank_eq_self {cs : List Char} (h : ∀ c ∈ cs.head?, isBlank c = false) :
    cs.dropWhile isBlank = cs := by
  cases cs with
  | nil => rfl
  | cons c r => simp [List.dropWhile, h c (by simp)]

theorem head?_dropWhile_isBlank (cs : List Char) :
    ∀ c ∈ (cs.dropWhile isBlank).head?, isBlank c = false := by
  induction cs with
  | nil => simp
  | cons c r ih =>
    by_cases h : isBlank c
    · simpa [List.dropWhile, h] using ih
    · simp [List.dropWhile, h]

theorem getLast?_trimEnd (cs : List Char) : ∀ c ∈ (trimEnd cs).getLast?, isBlank c = false := by
  intro c h
  exact head?_dropWhile_isBlank cs.reverse c (by simpa [trimEnd] using h)

theorem trimEnd_eq_self {cs : List Char} (h : ∀ c ∈ cs.getLast?, isBlank c = false) :
    trimEnd cs = cs := by
  unfold trimEnd
  rw [dropWhile_isBlank_eq_self (by simpa using h), List.reverse_reverse]

/-- Trimming the end keeps the first character of what remains. -/
theorem head?_trimEnd {cs : List Char} (h : ∀ c ∈ cs.head?, isBlank c = false) :
    ∀ c ∈ (trimEnd cs).head?, isBlank c = false := by
  intro c hc
  have hp : trimEnd cs <+: cs := by
    have := (List.dropWhile_suffix isBlank : cs.reverse.dropWhile isBlank <:+ cs.reverse)
    simpa [trimEnd] using List.reverse_prefix.2 this
  obtain ⟨t, ht⟩ := hp
  refine h c ?_
  cases hcs : trimEnd cs with
  | nil => simp [hcs] at hc
  | cons d r =>
    rw [hcs] at hc ht
    rw [← ht]
    simpa using hc

theorem trimChars_trimChars (cs : List Char) : trimChars (trimChars cs) = trimChars cs := by
  have hh := head?_trimEnd (head?_dropWhile_isBlank cs)
  have hl := getLast?_trimEnd (cs.dropWhile isBlank)
  unfold trimChars
  rw [dropWhile_isBlank_eq_self hh, trimEnd_eq_self hl]

/-- A trimmed text stays as it is when it is trimmed again. -/
theorem trim_trim (s : String) : trim (trim s) = trim s := by
  simp [trim, trimChars_trimChars]

end RoomHub.Text
