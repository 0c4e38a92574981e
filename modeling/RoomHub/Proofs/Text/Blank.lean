import Mathlib.Data.List.TakeWhile
import RoomHub.Text.Blank

/-!
# What trimming leaves

A text `t` is what trimming leaves of `s` (`Trims s t`) if `s` is `t` with blanks around it and `t` has
no blank at either end.  There is exactly one such text (`trims_iff`).
-/

namespace RoomHub.Text

/-- A text is another one with blanks around it, which itself neither begins nor ends with a blank. -/
structure Trims (s t : String) : Prop where
  around : ∃ before after, s.toList = before ++ t.toList ++ after ∧
    (∀ c ∈ before, isBlank c = true) ∧ ∀ c ∈ after, isBlank c = true
  first : ∀ c ∈ t.toList.head?, isBlank c = false
  last : ∀ c ∈ t.toList.getLast?, isBlank c = false

variable {s t : String}

theorem trimEnd_append_blanks {cs blanks : List Char} (blank : ∀ c ∈ blanks, isBlank c = true)
    (last : ∀ c ∈ cs.getLast?, isBlank c = false) : trimEnd (cs ++ blanks) = cs := by
  have dropped : trimEnd (cs ++ blanks) = trimEnd cs := by
    unfold trimEnd
    rw [List.reverse_append,
      List.dropWhile_append_of_pos fun c hc => blank c (List.mem_reverse.1 hc)]
  rw [dropped, trimEnd_eq_self last]

theorem Trims.trim_eq (h : Trims s t) : trim s = t := by
  obtain ⟨before, after, same, leading, trailing⟩ := h.around
  have dropped : s.toList.dropWhile isBlank = (t.toList ++ after).dropWhile isBlank := by
    rw [same, List.append_assoc, List.dropWhile_append_of_pos leading]
  have ends : trimChars s.toList = t.toList := by
    unfold trimChars
    rw [dropped]
    cases text : t.toList with
    | nil =>
      rw [List.nil_append, List.dropWhile_eq_nil_iff.2 trailing]
      rfl
    | cons c cs =>
      have first : isBlank c = false := h.first c (by rw [text]; rfl)
      rw [List.cons_append, List.dropWhile_cons_of_neg (by simp [first]), ← List.cons_append,
        trimEnd_append_blanks trailing (text ▸ h.last)]
  rw [trim, ends, String.ofList_toList]

theorem trims_trim (s : String) : Trims s (trim s) := by
  have split : s.toList = s.toList.takeWhile isBlank ++ s.toList.dropWhile isBlank :=
    List.takeWhile_append_dropWhile.symm
  have ending (cs : List Char) : cs = trimEnd cs ++ (cs.reverse.takeWhile isBlank).reverse := by
    unfold trimEnd
    rw [← List.reverse_append, List.takeWhile_append_dropWhile, List.reverse_reverse]
  have kept : (trim s).toList = trimEnd (s.toList.dropWhile isBlank) := by
    rw [trim, String.toList_ofList, trimChars]
  refine ⟨⟨s.toList.takeWhile isBlank,
    ((s.toList.dropWhile isBlank).reverse.takeWhile isBlank).reverse, ?_,
    fun c hc => List.mem_takeWhile_imp hc, fun c hc => ?_⟩, ?_, ?_⟩
  · rw [kept, List.append_assoc, ← ending, ← split]
  · exact List.mem_takeWhile_imp (List.mem_reverse.1 hc)
  · rw [kept]
    exact head?_trimEnd (head?_dropWhile_isBlank _)
  · rw [kept]
    exact getLast?_trimEnd _

theorem trims_iff : Trims s t ↔ trim s = t :=
  ⟨Trims.trim_eq, fun same => same ▸ trims_trim s⟩

end RoomHub.Text
