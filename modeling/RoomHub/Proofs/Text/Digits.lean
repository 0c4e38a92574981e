import Mathlib.Data.List.Forall2
import Mathlib.Data.List.Lex
import Mathlib.Tactic.IntervalCases
import RoomHub.Text.Digits

/-!
# Numbers in texts of fixed widths

Digits of a fixed width have the order of their numbers (`fixedDigits_lt`), and so has a text in which
such digits alternate with marks: its order is that of the list of its numbers (`spell_lt_spell`), and
the list is read back from it (`unspell_spell`).
-/

namespace RoomHub.Text

variable {width a b : Nat} {marks : List (Nat × Char)} {ms ns : List Nat}

/-! ### Digits -/

theorem toNat_digitChar (n : Nat) : (digitChar n).toNat = 0x30 + n % 10 := by
  have small : n % 10 < 10 := Nat.mod_lt n (by decide)
  unfold digitChar
  interval_cases n % 10 <;> rfl

theorem digitChar_lt (less : a % 10 < b % 10) : digitChar a < digitChar b := by
  have order : (digitChar a).toNat < (digitChar b).toNat := by
    rw [toNat_digitChar, toNat_digitChar]
    omega
  exact order

/-- The number that decimal digits denote. -/
def numberOf (digits : List Char) : Nat :=
  digits.foldl (fun n c => 10 * n + (c.toNat - 0x30)) 0

theorem numberOf_concat (digits : List Char) (c : Char) :
    numberOf (digits ++ [c]) = 10 * numberOf digits + (c.toNat - 0x30) := by
  simp only [numberOf, List.foldl_append, List.foldl_cons, List.foldl_nil]

theorem numberOf_fixedDigits (small : a < 10 ^ width) : numberOf (fixedDigits width a) = a := by
  induction width generalizing a with
  | zero =>
    rw [Nat.pow_zero, Nat.lt_one_iff] at small
    rw [small]
    rfl
  | succ width ih =>
    rw [Nat.pow_succ] at small
    rw [fixedDigits, numberOf_concat, ih (Nat.div_lt_of_lt_mul (Nat.mul_comm _ 10 ▸ small)),
      toNat_digitChar]
    omega

theorem all_isDigit_fixedDigits (width a : Nat) :
    (fixedDigits width a).all Char.isDigit = true := by
  induction width generalizing a with
  | zero => rfl
  | succ width ih =>
    have digit : (digitChar a).isDigit = true := by
      have small : a % 10 < 10 := Nat.mod_lt a (by decide)
      unfold digitChar
      interval_cases a % 10 <;> rfl
    rw [fixedDigits, List.all_append, ih, Bool.true_and]
    simp only [List.all_cons, digit, List.all_nil, Bool.and_self]

/-- Of two numbers with the same number of digits, the smaller one comes first. -/
theorem fixedDigits_lt (less : a < b) (small : b < 10 ^ width) (s t : List Char) :
    fixedDigits width a ++ s < fixedDigits width b ++ t := by
  induction width generalizing a b s t with
  | zero =>
    rw [Nat.pow_zero] at small
    omega
  | succ width ih =>
    simp only [fixedDigits, List.append_assoc, List.singleton_append]
    rcases Nat.lt_or_eq_of_le (Nat.div_le_div_right (c := 10) less.le) with front | same
    · rw [Nat.pow_succ] at small
      exact ih front (Nat.div_lt_of_lt_mul (Nat.mul_comm _ 10 ▸ small)) _ _
    · rw [same]
      exact List.append_left_lt (List.cons_lt_cons_iff.2 (.inl (digitChar_lt (by omega))))

/-! ### Digits between marks -/

/-- Numbers in digits, each with a width and followed by a mark. -/
def spell : List (Nat × Char) → List Nat → List Char
  | (width, mark) :: marks, n :: ns => fixedDigits width n ++ mark :: spell marks ns
  | _, _ => []

/-- There is a number for each mark, and it has no more digits than its width. -/
def Fits (marks : List (Nat × Char)) (ns : List Nat) : Prop :=
  List.Forall₂ (fun mark n => n < 10 ^ mark.1) marks ns

/-- Reads the numbers between marks. -/
def unspell : List (Nat × Char) → List Char → Option (List Nat)
  | [], [] => some []
  | [], _ :: _ => none
  | (width, mark) :: marks, cs =>
    if (cs.take width).all Char.isDigit && cs[width]? == some mark then
      (unspell marks (cs.drop (width + 1))).map (numberOf (cs.take width) :: ·)
    else none

/-- Texts with the same marks have the order of their numbers. -/
theorem spell_lt_spell (first : Fits marks ms) (second : Fits marks ns) (less : ms < ns) :
    spell marks ms < spell marks ns := by
  induction first generalizing ns with
  | nil =>
    cases second
    exact absurd less (List.lt_irrefl _)
  | @cons mark m marks ms _ _ ih =>
    cases second with
    | cons small rest =>
      rcases List.cons_lt_cons_iff.1 less with before | ⟨rfl, after⟩
      · exact fixedDigits_lt before small _ _
      · exact List.append_left_lt (List.cons_lt_cons_iff.2 (.inr ⟨rfl, ih rest after⟩))

/-- The numbers are read back. -/
theorem unspell_spell (fits : Fits marks ns) : unspell marks (spell marks ns) = some ns := by
  induction fits with
  | nil => rfl
  | @cons mark n marks ns small _ ih =>
    obtain ⟨width, mark⟩ := mark
    have digits : (spell ((width, mark) :: marks) (n :: ns)).take width = fixedDigits width n :=
      List.take_left' (length_fixedDigits width n)
    have rest : (spell ((width, mark) :: marks) (n :: ns)).drop (width + 1) = spell marks ns := by
      simp [spell, List.drop_append]
    have marked : (spell ((width, mark) :: marks) (n :: ns))[width]? = some mark := by
      simp [spell]
    simp only [unspell, digits, marked, rest, all_isDigit_fixedDigits, ih,
      numberOf_fixedDigits small]
    simp

theorem length_spell (fits : Fits marks ns) :
    (spell marks ns).length = (marks.map fun mark => mark.1 + 1).sum := by
  induction fits with
  | nil => rfl
  | @cons mark n marks ns _ _ ih =>
    simp only [spell, List.length_append, length_fixedDigits, List.length_cons, ih, List.map_cons,
      List.sum_cons]
    omega

end RoomHub.Text
