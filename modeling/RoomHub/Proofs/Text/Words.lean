import RoomHub.Text.Blank

/-!
# The words of a text

A text is made of words (`MadeOf`) if these are its maximal runs of characters that are not blank.
Every text is made of exactly one list of words, the one that `words` finds (`words_eq_iff`), so that
to read a text made of words its blanks need not be looked at one by one (`madeOf_pair_iff`).
-/

namespace RoomHub.Text

/-- Nothing but blanks. -/
def Blanks (cs : List Char) : Prop := ∀ c ∈ cs, isBlank c = true

/-- At least one character, and no blank. -/
structure IsWord (word : List Char) : Prop where
  nonempty : word ≠ []
  solid : ∀ c ∈ word, isBlank c = false

/-- A text is made of words: there may be blanks before each of them and at the end, and what follows
a word begins with a blank. -/
inductive MadeOf : List (List Char) → List Char → Prop
  | blanks {gap : List Char} (blank : Blanks gap) : MadeOf [] gap
  | word {gap word rest : List Char} {words : List (List Char)} (blank : Blanks gap)
      (isWord : IsWord word) (apart : ∀ c ∈ rest.head?, isBlank c = true)
      (more : MadeOf words rest) : MadeOf (word :: words) (gap ++ (word ++ rest))

variable {c : Char} {cs gap word rest : List Char} {found : List (List Char)}

theorem blanks_nil : Blanks [] := fun _ there => absurd there List.not_mem_nil

theorem Blanks.cons (blanks : Blanks cs) (blank : isBlank c = true) : Blanks (c :: cs) :=
  List.forall_mem_cons.2 ⟨blank, blanks⟩

/-- A blank in front changes nothing. -/
theorem MadeOf.cons_blank (made : MadeOf found cs) (blank : isBlank c = true) :
    MadeOf found (c :: cs) := by
  cases made with
  | blanks gap => exact .blanks (gap.cons blank)
  | word gap isWord apart more => exact MadeOf.word (gap.cons blank) isWord apart more

/-- A text may begin with a word. -/
theorem MadeOf.of_word (isWord : IsWord word) (apart : ∀ c ∈ rest.head?, isBlank c = true)
    (more : MadeOf found rest) : MadeOf (word :: found) (word ++ rest) :=
  MadeOf.word blanks_nil isWord apart more

/-- What is found is what the text is made of; `word` is the run read so far. -/
theorem madeOf_wordsFrom (solid : ∀ c ∈ word, isBlank c = false) (cs : List Char) :
    MadeOf (wordsFrom word cs) (word ++ cs) := by
  fun_induction wordsFrom word cs with
  | case1 word empty =>
    rw [List.isEmpty_iff.1 empty]
    exact .blanks blanks_nil
  | case2 word nonempty =>
    refine .of_word ⟨?_, solid⟩ (by simp) (.blanks blanks_nil)
    exact fun empty => nonempty (by rw [empty]; rfl)
  | case3 word c cs blank empty ih =>
    rw [List.isEmpty_iff.1 empty]
    exact (ih (by simp)).cons_blank blank
  | case4 word c cs blank nonempty ih =>
    refine .of_word ⟨?_, solid⟩ (by simp [blank]) ?_
    · exact fun empty => nonempty (by rw [empty]; rfl)
    · exact (ih (by simp)).cons_blank blank
  | case5 word c cs solid' ih =>
    have grown : ∀ d ∈ word ++ [c], isBlank d = false := by
      intro d there
      rcases List.mem_append.1 there with before | last
      · exact solid d before
      · rw [List.mem_singleton.1 last]
        exact Bool.eq_false_iff.2 solid'
    have made := ih grown
    rwa [List.append_assoc] at made

theorem wordsFrom_blanks (blank : Blanks gap) (cs : List Char) :
    wordsFrom [] (gap ++ cs) = wordsFrom [] cs := by
  induction gap with
  | nil => rfl
  | cons c gap ih =>
    have here : isBlank c = true := blank c List.mem_cons_self
    simp only [List.cons_append, wordsFrom, here, List.isEmpty_nil, if_true]
    exact ih fun d there => blank d (List.mem_cons_of_mem c there)

/-- A run without blanks is read to its end; `word` is what was read of it before. -/
theorem wordsFrom_solid (solid : ∀ c ∈ cs, isBlank c = false)
    (apart : ∀ c ∈ rest.head?, isBlank c = true) (nonempty : word ++ cs ≠ []) :
    wordsFrom word (cs ++ rest) = (word ++ cs) :: wordsFrom [] rest := by
  induction cs generalizing word with
  | nil =>
    rw [List.append_nil] at nonempty ⊢
    cases rest with
    | nil => simp [wordsFrom, nonempty]
    | cons c rest =>
      have blank : isBlank c = true := apart c rfl
      simp [wordsFrom, nonempty, blank]
  | cons c cs ih =>
    have here : isBlank c = false := solid c List.mem_cons_self
    simp only [List.cons_append, wordsFrom, here, Bool.false_eq_true, if_false]
    rw [ih (fun d there => solid d (List.mem_cons_of_mem c there)) (by simp), List.append_assoc]
    rfl

theorem MadeOf.wordsFrom_eq (made : MadeOf found cs) : wordsFrom [] cs = found := by
  induction made with
  | blanks blank =>
    have none := wordsFrom_blanks blank []
    rwa [List.append_nil] at none
  | word blank isWord apart _ ih =>
    rw [wordsFrom_blanks blank, wordsFrom_solid isWord.solid apart (by simpa using isWord.nonempty), ih]
    rfl

/-- The words of a text are what it is made of. -/
theorem words_eq_iff {s : String} {found : List String} :
    words s = found ↔ MadeOf (found.map String.toList) s.toList := by
  constructor
  · rintro rfl
    have begun : ∀ c ∈ ([] : List Char), isBlank c = false := by simp
    simpa [words, Function.comp_def] using madeOf_wordsFrom begun s.toList
  · intro made
    simp [words, made.wordsFrom_eq, Function.comp_def]

/-- A text made of two words: blanks may stand around them, and there is one between them. -/
theorem madeOf_pair_iff {first second : List Char} :
    MadeOf [first, second] cs ↔ IsWord first ∧ IsWord second ∧ ∃ before gap after,
      cs = before ++ (first ++ (gap ++ (second ++ after))) ∧ Blanks before ∧ Blanks gap ∧
        gap ≠ [] ∧ Blanks after := by
  constructor
  · intro made
    cases made with
    | @word before _ _ _ leading isFirst apart more =>
      cases more with
      | @word gap _ after _ blank isSecond _ more =>
        cases more with
        | blanks trailing =>
          refine ⟨isFirst, isSecond, before, gap, after, rfl, leading, blank, ?_, trailing⟩
          rintro rfl
          -- without a gap the second word would have to begin with a blank
          cases second with
          | nil => exact isSecond.nonempty rfl
          | cons c second =>
            have blank : isBlank c = true := apart c rfl
            rw [isSecond.solid c List.mem_cons_self] at blank
            cases blank
  · rintro ⟨isFirst, isSecond, before, gap, after, rfl, leading, blank, nonempty, trailing⟩
    refine .word leading isFirst ?_ (.word blank isSecond ?_ (.blanks trailing))
    · intro c there
      cases gap with
      | nil => exact absurd rfl nonempty
      | cons d gap =>
        cases there
        exact blank _ List.mem_cons_self
    · exact fun c there => trailing c (List.mem_of_mem_head? there)

end RoomHub.Text
