import RoomHub.Credentials
import RoomHub.Http.Header
import RoomHub.Proofs.Text.Blank
import RoomHub.Proofs.Text.Utf8
import RoomHub.Proofs.Text.Words

/-!
# How a token is presented

`Bears` is the grammar of bearer headers; what a header bears is what is read from it, and all other
headers are refused (`bearerToken_eq_ok_iff`, `bearer_grammar`).

A token of visible characters has no blanks.  So a bearer header bears it
(`Presentable.bearerToken_eq`), and trimming leaves it as it is when it comes by itself
(`Presentable.presentedToken_eq`).
-/

namespace RoomHub

open Text

/-! ### The grammar of bearer headers -/

theorem lowerAscii_eq_toLower (c : Char) : lowerAscii c = c.toLower := by
  unfold lowerAscii Char.toLower
  split_ifs with upper upper' upper'
  · have high : c.toNat ≤ 90 := upper.2
    apply Char.toNat_inj.1
    rw [Utf8.toNat_char (.inl (by omega))]
    have shift : ('a'.val - 'A'.val).toNat = 32 := rfl
    have low : c.val.toNat = c.toNat := rfl
    simp only [Char.toNat, UInt32.toNat_add, shift] at high ⊢
    omega
  · exact absurd upper upper'
  · exact absurd upper' upper
  · rfl

/-- No blank is a letter. -/
theorem toLower_of_isBlank {c : Char} (blank : isBlank c = true) : c.toLower = c := by
  rw [← lowerAscii_eq_toLower, lowerAscii, if_neg]
  rintro ⟨low, high⟩
  have low : 65 ≤ c.toNat := low
  have high : c.toNat ≤ 90 := high
  simp [isBlank] at blank
  omega

/-- A text is the word `bearer`, its letters in any case. -/
def IsBearer (scheme : String) : Prop := scheme.toList.map Char.toLower = "bearer".toList

theorem sameAscii_bearer_iff {scheme : String} :
    sameAscii scheme "bearer" = true ↔ IsBearer scheme := by
  have lower : "bearer".toList.map lowerAscii = "bearer".toList := by decide
  have same : lowerAscii = Char.toLower := funext lowerAscii_eq_toLower
  rw [sameAscii, decide_eq_true_iff, lower, same, IsBearer]

theorem IsBearer.isWord {scheme : String} (bearer : IsBearer scheme) : IsWord scheme.toList := by
  constructor
  · intro empty
    rw [IsBearer, empty] at bearer
    cases bearer
  · intro c there
    by_contra blank
    rw [Bool.not_eq_false] at blank
    have letter : c.toLower ∈ "bearer".toList := by
      rw [← show _ = "bearer".toList from bearer]
      exact List.mem_map_of_mem there
    rw [toLower_of_isBlank blank] at letter
    have letters : "bearer".toList.all (!isBlank ·) = true := by decide
    have solid := List.all_eq_true.1 letters c letter
    rw [blank] at solid
    cases solid

/-- A header bears a token: the word `bearer` and the token, which is not empty and has no blank, with
at least one blank between the two and any blanks around them. -/
structure Bears (header token : String) : Prop where
  parts : ∃ before scheme gap after : String, header = before ++ scheme ++ gap ++ token ++ after ∧
    isBlankText before = true ∧ IsBearer scheme ∧ isBlankText gap = true ∧ gap ≠ "" ∧
    isBlankText after = true
  nonempty : token ≠ ""
  solid : ∀ c ∈ token.toList, isBlank c = false

variable {header token : String}

theorem blanks_iff {s : String} : Blanks s.toList ↔ isBlankText s = true := List.all_eq_true.symm

/-- The words of a header that bears a token are `bearer` and this token. -/
theorem bears_iff_words :
    Bears header token ↔ ∃ scheme, IsBearer scheme ∧ words header = [scheme, token] := by
  constructor
  · rintro ⟨⟨before, scheme, gap, after, rfl, leading, bearer, blank, apart, trailing⟩, nonempty, solid⟩
    refine ⟨scheme, bearer, words_eq_iff.2 (madeOf_pair_iff.2 ⟨bearer.isWord, ⟨?_, solid⟩,
      before.toList, gap.toList, after.toList, ?_, blanks_iff.2 leading, blanks_iff.2 blank, ?_,
      blanks_iff.2 trailing⟩)⟩
    · exact fun empty => nonempty (String.toList_eq_nil_iff.1 empty)
    · simp only [String.toList_append, List.append_assoc]
    · exact fun empty => apart (String.toList_eq_nil_iff.1 empty)
  · rintro ⟨scheme, bearer, found⟩
    obtain ⟨-, isWord, before, gap, after, same, leading, blank, apart, trailing⟩ :=
      madeOf_pair_iff.1 (words_eq_iff.1 found)
    refine ⟨⟨.ofList before, scheme, .ofList gap, .ofList after, ?_, ?_, bearer, ?_, ?_, ?_⟩, ?_,
      isWord.solid⟩
    · apply String.toList_injective
      simp only [String.toList_append, String.toList_ofList, List.append_assoc, same]
    · exact blanks_iff.1 (String.toList_ofList.symm ▸ leading)
    · exact blanks_iff.1 (String.toList_ofList.symm ▸ blank)
    · rintro empty
      exact apart (by rw [← String.toList_ofList (l := gap), empty]; rfl)
    · exact blanks_iff.1 (String.toList_ofList.symm ▸ trailing)
    · rintro rfl
      exact isWord.nonempty rfl

theorem Bears.unique {other : String} (first : Bears header token) (second : Bears header other) :
    other = token := by
  obtain ⟨scheme, -, found⟩ := bears_iff_words.1 first
  obtain ⟨scheme', -, found'⟩ := bears_iff_words.1 second
  rw [found] at found'
  cases found'
  rfl

/-- A header is read as the token that it bears, or it is refused. -/
theorem bearerToken_cases (header : String) :
    (∃ token, Bears header token ∧ bearerToken header = .ok token) ∨
      (∀ token, ¬ Bears header token) ∧ bearerToken header = .error .invalidAuthHeader := by
  unfold bearerToken
  split
  next scheme token found =>
    split_ifs with same
    · exact .inl ⟨token, bears_iff_words.2 ⟨scheme, sameAscii_bearer_iff.1 same, found⟩, rfl⟩
    · refine .inr ⟨fun token bears => same ?_, rfl⟩
      obtain ⟨scheme', bearer, found'⟩ := bears_iff_words.1 bears
      rw [found] at found'
      cases found'
      exact sameAscii_bearer_iff.2 bearer
  next others =>
    refine .inr ⟨fun token bears => ?_, rfl⟩
    obtain ⟨scheme, -, found⟩ := bears_iff_words.1 bears
    exact others scheme token found

theorem bearerToken_eq_ok_iff : bearerToken header = .ok token ↔ Bears header token := by
  obtain ⟨found, bears, read⟩ | ⟨none, refused⟩ := bearerToken_cases header
  · rw [read, Except.ok.injEq]
    exact ⟨fun same => same ▸ bears, fun other => other.unique bears⟩
  · rw [refused]
    exact iff_of_false nofun (none token)

/-- What a header bears is what is read from it.  It bears one token, or none, and then it is
refused. -/
theorem bearer_grammar (header : String) :
    (∀ token, bearerToken header = .ok token ↔ Bears header token) ∧
      ((∃! token, Bears header token) ∨
        (∀ token, ¬ Bears header token) ∧ bearerToken header = .error .invalidAuthHeader) := by
  refine ⟨fun token => bearerToken_eq_ok_iff, ?_⟩
  obtain ⟨token, bears, -⟩ | refused := bearerToken_cases header
  · exact .inl ⟨token, bears, fun other others => bears.unique others⟩
  · exact .inr refused

example : (bearerToken "\u2003bEARER\t\u00a0a.b.c\n").toOption = some "a.b.c" := by decide

/-! ### Tokens that can be presented either way -/

/-- A visible character of ASCII. -/
def Visible (c : Char) : Prop := 0x21 ≤ c.toNat ∧ c.toNat ≤ 0x7e

instance (c : Char) : Decidable (Visible c) :=
  inferInstanceAs (Decidable (0x21 ≤ c.toNat ∧ c.toNat ≤ 0x7e))

/-- A token that can be presented either way: at least one character, all of them visible. -/
structure Presentable (token : String) : Prop where
  nonempty : token ≠ ""
  visible : ∀ c ∈ token.toList, Visible c

instance (token : String) : Decidable (Presentable token) :=
  decidable_of_iff (token ≠ "" ∧ token.toList.all (fun c => decide (Visible c)) = true)
    ⟨fun h => ⟨h.1, by simpa using h.2⟩, fun h => ⟨h.nonempty, by simpa using h.visible⟩⟩

theorem isBlank_of_visible {c : Char} (visible : Visible c) : isBlank c = false := by
  obtain ⟨low, high⟩ := visible
  simp [isBlank]
  omega

namespace Presentable

variable (h : Presentable token)
include h

theorem solid : ∀ c ∈ token.toList, isBlank c = false :=
  fun c hc => isBlank_of_visible (h.visible c hc)

theorem bearerToken_eq : bearerToken ("Bearer " ++ token) = .ok token :=
  bearerToken_eq_ok_iff.2
    ⟨⟨"", "Bearer", " ", "", by simp, rfl, rfl, rfl, by decide, rfl⟩,
      h.nonempty, h.solid⟩

theorem presentedToken_eq : presentedToken (some token) = .ok token := by
  have kept : trim token = token := by
    refine trims_iff.1 ⟨⟨[], [], by simp, by simp, by simp⟩, ?_, ?_⟩
    · exact fun c hc => h.solid c (List.mem_of_mem_head? hc)
    · exact fun c hc => h.solid c (List.mem_of_mem_getLast? hc)
  unfold presentedToken
  rw [Option.map_some, kept]
  split
  next none => cases none
  next empty => exact absurd (Option.some.inj empty) h.nonempty
  next found => rw [Option.some.inj found]

theorem isPlainValue_bearer : Http.isPlainValue ("Bearer " ++ token) = true := by
  have scheme : Http.isPlainValue "Bearer " = true := by decide
  unfold Http.isPlainValue at scheme ⊢
  rw [String.toList_append, List.all_append, scheme, Bool.true_and, List.all_eq_true]
  intro c hc
  obtain ⟨low, high⟩ := h.visible c hc
  simp
  omega

end Presentable
end RoomHub
