import Mathlib.Data.String.Basic
import RoomHub.Calendar.Instant
import RoomHub.Proofs.Calendar.Civil
import RoomHub.Proofs.Text.Digits

/-!
# The order of timestamps

The text of an instant spells seven numbers between marks, from the year to the millisecond
(`millisChars_eq`), and earlier milliseconds have earlier numbers (`fields_lt`).  So texts are compared as
the milliseconds are (`toMillisText_lt_iff`), and an instant is read back from its text up to its millisecond
(`ofMillisText?_toMillisText`).
-/

namespace RoomHub.Calendar

open Text

instance (d : Date) : Decidable d.Valid :=
  decidable_of_iff
    ((1 ≤ d.month ∧ d.month ≤ 12) ∧ 1 ≤ d.day ∧ d.day ≤ monthLength d.year d.month)
    ⟨fun h => ⟨h.1, h.2⟩, fun h => ⟨h.month, h.day⟩⟩

namespace Instant

/-- The date of an instant. -/
def date (t : Instant) : Date := Date.ofDays (t.seconds / 86400)

/-- The year has four digits. -/
def FourDigitYear (t : Instant) : Prop := 0 ≤ t.date.year ∧ t.date.year ≤ 9999

instance (t : Instant) : Decidable t.FourDigitYear :=
  inferInstanceAs (Decidable (0 ≤ t.date.year ∧ t.date.year ≤ 9999))

/-- The start of the millisecond that an instant lies in. -/
def truncated (t : Instant) : Instant where
  seconds := t.seconds
  nanos := t.nanos / 1000000 * 1000000
  nanos_lt := by have := t.nanos_lt; omega
  leap long := t.leap (by omega)
  inRange := t.inRange

/-- The widths of the numbers in a text, and the marks that follow them. -/
def marks : List (Nat × Char) :=
  [(4, '-'), (2, '-'), (2, 'T'), (2, ':'), (2, ':'), (2, '.'), (3, 'Z')]

/-- The numbers in the text of an instant. -/
def fields (t : Instant) : List Nat :=
  [t.date.year.toNat, t.date.month, t.date.day, (t.seconds % 86400).toNat / 3600,
    (t.seconds % 86400).toNat / 60 % 60, t.shownSecond, t.shownNanos / 1000000]

/-- The instant of a text with three fraction digits.  Only in a leap second the second is 60. -/
def ofMillisText? (s : String) : Option Instant :=
  match unspell marks s.toList with
  | some [year, month, day, hour, minute, second, millis] =>
    let date : Date := ⟨year, month, day⟩
    if date.Valid ∧ hour < 24 ∧ minute < 60 ∧ second ≤ 60 then
      let leap := second / 60
      ofParts? (date.toDays * 86400 + (hour * 3600 + minute * 60 + (second - leap) : Nat))
        ((leap * 1000 + millis) * 1000000)
    else none
  | _ => none

variable {a b t : Instant}

theorem millisChars_eq (year : t.FourDigitYear) : t.millisChars = spell marks t.fields := by
  have four : yearText t.date.year = fixedDigits 4 t.date.year.toNat := if_pos year
  unfold date at four
  simp only [millisChars, secondText, four]
  simp [spell, marks, fields, date]

theorem fits_fields (year : t.FourDigitYear) : Fits marks t.fields := by
  obtain ⟨⟨-, months⟩, -, days⟩ := valid_ofDays (t.seconds / 86400)
  have short : monthLength t.date.year t.date.month ≤ 31 := by
    unfold monthLength
    split_ifs <;> decide
  have nanos := t.nanos_lt
  obtain ⟨-, high⟩ := year
  simp only [Fits, marks, fields, List.forall₂_cons, List.forall₂_nil_left_iff, and_true]
  unfold shownSecond shownNanos date at *
  refine ⟨by omega, by omega, by omega, by omega, by omega, ?_, by omega⟩
  omega

/-- An instant lies in an earlier millisecond than another one. -/
def MilliBefore (a b : Instant) : Prop :=
  a.seconds < b.seconds ∨ a.seconds = b.seconds ∧ a.nanos / 1000000 < b.nanos / 1000000

/-- Two instants lie in the same millisecond. -/
def SameMilli (a b : Instant) : Prop :=
  a.seconds = b.seconds ∧ a.nanos / 1000000 = b.nanos / 1000000

/-- Within a day, an earlier millisecond has an earlier time of day.  Only the last second of a minute
shows a second more. -/
theorem time_lt (earlier : a.MilliBefore b) (same : a.seconds / 86400 = b.seconds / 86400) :
    [(a.seconds % 86400).toNat / 3600, (a.seconds % 86400).toNat / 60 % 60, a.shownSecond,
        a.shownNanos / 1000000] <
      [(b.seconds % 86400).toNat / 3600, (b.seconds % 86400).toNat / 60 % 60, b.shownSecond,
        b.shownNanos / 1000000] := by
  have nanos := a.nanos_lt
  have nanos' := b.nanos_lt
  have leap := a.leap
  simp only [List.cons_lt_cons_iff, List.lt_irrefl, and_false, or_false]
  unfold shownSecond shownNanos
  rcases earlier with earlier | ⟨same, earlier⟩
  · omega
  · omega

/-- An earlier millisecond has earlier numbers. -/
theorem fields_lt (year : a.FourDigitYear) (earlier : a.MilliBefore b) : a.fields < b.fields := by
  have order : a.seconds / 86400 ≤ b.seconds / 86400 := by
    unfold MilliBefore at earlier
    omega
  rcases order.lt_or_eq with days | same
  · have dates : a.date < b.date := ofDays_lt_ofDays days
    rw [Date.lt_iff] at dates
    simp only [fields, List.cons_lt_cons_iff]
    have low := year.1
    omega
  · have dates : a.date = b.date := congrArg Date.ofDays same
    simp only [fields, dates, List.cons_lt_cons_self]
    exact time_lt earlier same

/-! ### Texts -/

theorem toMillisText_congr (same : a.SameMilli b) : a.toMillisText = b.toMillisText := by
  obtain ⟨seconds, millis⟩ := same
  have second : a.shownSecond = b.shownSecond := by
    unfold shownSecond
    omega
  have fraction : a.shownNanos / 1000000 = b.shownNanos / 1000000 := by
    unfold shownNanos
    omega
  simp only [toMillisText, millisChars, secondText, seconds, second, fraction]

theorem toMillisText_lt (first : a.FourDigitYear) (second : b.FourDigitYear)
    (earlier : a.MilliBefore b) : a.toMillisText < b.toMillisText := by
  rw [String.lt_iff_toList_lt, toMillisText, toMillisText, String.toList_ofList,
    String.toList_ofList, millisChars_eq first, millisChars_eq second]
  exact spell_lt_spell (fits_fields first) (fits_fields second) (fields_lt first earlier)

theorem before_or_same_or_after (a b : Instant) :
    a.MilliBefore b ∨ a.SameMilli b ∨ b.MilliBefore a := by
  unfold MilliBefore SameMilli
  omega

/-- Texts are compared as the milliseconds are. -/
theorem toMillisText_lt_iff (first : a.FourDigitYear) (second : b.FourDigitYear) :
    a.toMillisText < b.toMillisText ↔ a.MilliBefore b := by
  refine ⟨fun less => ?_, toMillisText_lt first second⟩
  rcases before_or_same_or_after a b with before | same | after
  · exact before
  · exact absurd (toMillisText_congr same) less.ne
  · exact absurd (toMillisText_lt second first after) less.not_gt

theorem toMillisText_eq_iff (first : a.FourDigitYear) (second : b.FourDigitYear) :
    a.toMillisText = b.toMillisText ↔ a.SameMilli b := by
  refine ⟨fun equal => ?_, toMillisText_congr⟩
  rcases before_or_same_or_after a b with before | same | after
  · exact absurd equal (toMillisText_lt first second before).ne
  · exact same
  · exact absurd equal.symm (toMillisText_lt second first after).ne

theorem truncated_le_iff : a.truncated ≤ b.truncated ↔ ¬ b.MilliBefore a := by
  have le : a.truncated ≤ b.truncated ↔ a.seconds < b.seconds ∨
      a.seconds = b.seconds ∧ a.nanos / 1000000 * 1000000 ≤ b.nanos / 1000000 * 1000000 := Iff.rfl
  rw [le]
  unfold MilliBefore
  omega

theorem toMillisText_le_iff (first : a.FourDigitYear) (second : b.FourDigitYear) :
    a.toMillisText ≤ b.toMillisText ↔ a.truncated ≤ b.truncated := by
  rw [truncated_le_iff, ← not_lt, toMillisText_lt_iff second first]

theorem truncated_mono (order : a ≤ b) : a.truncated ≤ b.truncated := by
  have le : a.seconds < b.seconds ∨ a.seconds = b.seconds ∧ a.nanos ≤ b.nanos := order
  rw [truncated_le_iff]
  unfold MilliBefore
  omega

theorem length_toMillisText (year : t.FourDigitYear) : t.toMillisText.length = 24 := by
  rw [toMillisText, String.length_ofList, millisChars_eq year, length_spell (fits_fields year)]
  rfl

/-! ### Reading -/

theorem ofMillisText?_toMillisText (year : t.FourDigitYear) :
    ofMillisText? t.toMillisText = some t.truncated := by
  have read : unspell marks t.toMillisText.toList = some t.fields := by
    rw [toMillisText, String.toList_ofList, millisChars_eq year, unspell_spell (fits_fields year)]
  have date : (⟨t.date.year.toNat, t.date.month, t.date.day⟩ : Date) = t.date := by
    rw [Int.toNat_of_nonneg year.1]
  have days : t.date.toDays = t.seconds / 86400 := toDays_ofDays _
  have nanos := t.nanos_lt
  have leap := t.leap
  have second : t.shownSecond ≤ 60 ∧ t.shownSecond / 60 = t.nanos / 1000000000 := by
    unfold shownSecond
    omega
  simp only [ofMillisText?, read, fields, date]
  rw [if_pos ⟨valid_ofDays _, by omega, by omega, second.1⟩, second.2, days]
  have seconds : t.seconds / 86400 * 86400 + ((t.seconds % 86400).toNat / 3600 * 3600 +
      (t.seconds % 86400).toNat / 60 % 60 * 60 + (t.shownSecond - t.nanos / 1000000000) : Nat) =
      t.seconds := by
    unfold shownSecond
    omega
  have millis : (t.nanos / 1000000000 * 1000 + t.shownNanos / 1000000) * 1000000 =
      t.nanos / 1000000 * 1000000 := by
    unfold shownNanos
    omega
  rw [seconds, millis]
  exact dif_pos ⟨t.truncated.nanos_lt, t.truncated.leap, t.truncated.inRange⟩

end Instant
end RoomHub.Calendar
