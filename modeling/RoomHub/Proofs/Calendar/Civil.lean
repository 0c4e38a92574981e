import Mathlib.Order.Monotone.Basic
import Mathlib.Tactic.IntervalCases
import Mathlib.Tactic.SplitIfs
import RoomHub.Calendar.Civil

/-!
# The calendar

`Date.next` is the day after a date, as the months and the leap years of the Gregorian calendar have it.
The days count these dates: 1970-01-01 is day 0, and the date of the day after a day is the next date
(`ofDays_zero`, `ofDays_succ`).  Hence later days have later dates (`ofDays_lt_ofDays`).

Both conversions go by years that begin in March.  A day is so many days after the first of March of such
a year (`ofDays_eq_ofMarch`), and the days to a date are those up to its year and those within it
(`toDays_eq`).
-/

namespace RoomHub.Calendar

/-- A year of 366 days. -/
def IsLeap (year : Int) : Prop := year % 4 = 0 ∧ (year % 100 ≠ 0 ∨ year % 400 = 0)

instance (year : Int) : Decidable (IsLeap year) :=
  inferInstanceAs (Decidable (year % 4 = 0 ∧ (year % 100 ≠ 0 ∨ year % 400 = 0)))

/-- The days of a month. -/
def monthLength (year : Int) (month : Nat) : Nat :=
  if month = 2 then if IsLeap year then 29 else 28
  else if month = 4 ∨ month = 6 ∨ month = 9 ∨ month = 11 then 30
  else 31

namespace Date

/-- The month and the day exist. -/
structure Valid (d : Date) : Prop where
  month : 1 ≤ d.month ∧ d.month ≤ 12
  day : 1 ≤ d.day ∧ d.day ≤ monthLength d.year d.month

/-- The day after a date. -/
def next (d : Date) : Date :=
  if d.day < monthLength d.year d.month then ⟨d.year, d.month, d.day + 1⟩
  else if d.month < 12 then ⟨d.year, d.month + 1, 1⟩
  else ⟨d.year + 1, 1, 1⟩

/-- Dates are compared by the year, then by the month, then by the day. -/
instance : LT Date where
  lt d e := d.year < e.year ∨
    d.year = e.year ∧ (d.month < e.month ∨ d.month = e.month ∧ d.day < e.day)

theorem lt_iff {d e : Date} : d < e ↔ d.year < e.year ∨
    d.year = e.year ∧ (d.month < e.month ∨ d.month = e.month ∧ d.day < e.day) := Iff.rfl

theorem lt_or_eq_or_gt (d e : Date) : d < e ∨ d = e ∨ e < d := by
  obtain ⟨year, month, day⟩ := d
  obtain ⟨year', month', day'⟩ := e
  simp only [lt_iff, Date.mk.injEq]
  omega

/-- The year that a date lies in if years begin in March. -/
def marchYear (d : Date) : Int := if d.month ≤ 2 then d.year - 1 else d.year

/-- The months from the first of March before a date. -/
def march (d : Date) : Int := if d.month ≤ 2 then d.month + 9 else d.month - 3

/-- The date that lies `day` days after the first of March of a year, less than a year later. -/
def ofMarch (year : Int) (day : Nat) : Date :=
  let march := (5 * day + 2) / 153
  let month := if march < 10 then march + 3 else march - 9
  { year := year + if month ≤ 2 then 1 else 0
    month := month
    day := day - (153 * march + 2) / 5 + 1 }

end Date

/-! ### Years that begin in March -/

/-- The days from 0000-03-01 to the first of March of a year. -/
def yearStart (year : Int) : Int := 365 * year + year / 4 - year / 100 + year / 400

/-- A year that begins in March has the leap day of the next one. -/
theorem yearStart_succ (year : Int) :
    yearStart (year + 1) = yearStart year + if IsLeap (year + 1) then 366 else 365 := by
  unfold yearStart IsLeap
  split_ifs <;> omega

theorem yearStart_mono {a b : Int} (h : a ≤ b) : yearStart a ≤ yearStart b := by
  refine (strictMono_int_of_lt_succ fun year => ?_).monotone h
  rw [yearStart_succ]
  split_ifs <;> omega

/-- The years of an era come in centuries and in cycles of four. -/
theorem yearStart_parts (era : Int) {century cycle year : Nat} (hc : century ≤ 3)
    (hq : cycle ≤ 24) (hy : year ≤ 3) :
    yearStart (era * 400 + (century * 100 + cycle * 4 + year : Nat)) =
      era * daysPerEra + (century * 36524 + cycle * 1461 + year * 365 : Nat) := by
  have fours : (era * 400 + (century * 100 + cycle * 4 + year : Nat)) / 4 =
      era * 100 + century * 25 + cycle := by omega
  have hundreds : (era * 400 + (century * 100 + cycle * 4 + year : Nat)) / 100 =
      era * 4 + century := by omega
  have eras : (era * 400 + (century * 100 + cycle * 4 + year : Nat)) / 400 = era := by omega
  unfold yearStart daysPerEra
  rw [fours, hundreds, eras]
  omega

/-! ### From a day to a date -/

/-- A day of an era in centuries, cycles of four years, years and days.  Only the last year of a cycle
has a day more, and that of the last cycle only in the last century. -/
theorem era_parts {n : Nat} (inside : n < 146097) :
    let century := min 3 (n / 36524)
    let cycle := (n - century * 36524) / 1461
    let year := min 3 ((n - century * 36524 - cycle * 1461) / 365)
    let day := n - century * 36524 - cycle * 1461 - year * 365
    century ≤ 3 ∧ cycle ≤ 24 ∧ year ≤ 3 ∧
      n = century * 36524 + cycle * 1461 + year * 365 + day ∧
      (day ≤ 364 ∨ day = 365 ∧ year = 3 ∧ (cycle = 24 → century = 3)) := by
  dsimp only
  omega

/-- Every day lies in one year that begins in March. -/
theorem ofDays_eq_ofMarch (days : Int) :
    ∃ (year : Int) (day : Nat), Date.ofDays days = .ofMarch year day ∧
      days + epochShift = yearStart year + day ∧ yearStart year + day < yearStart (year + 1) := by
  have quotient : (days + epochShift).fdiv daysPerEra = (days + epochShift) / 146097 :=
    Int.fdiv_eq_ediv_of_nonneg _ (by decide)
  have remainder : (days + epochShift).fmod daysPerEra = (days + epochShift) % 146097 :=
    Int.fmod_eq_emod_of_nonneg _ (by decide)
  obtain ⟨n, rest⟩ : ∃ n, n = ((days + epochShift) % 146097).toNat := ⟨_, rfl⟩
  obtain ⟨hc, hq, hy, whole, short⟩ := era_parts (by omega : n < 146097)
  simp only [Date.ofDays, quotient, remainder, ← rest]
  refine ⟨_, _, rfl, ?_⟩
  generalize min 3 (n / 36524) = century at *
  generalize (n - century * 36524) / 1461 = cycle at *
  generalize min 3 ((n - century * 36524 - cycle * 1461) / 365) = year at *
  generalize n - century * 36524 - cycle * 1461 - year * 365 = day at *
  constructor
  · rw [yearStart_parts _ hc hq hy]
    unfold daysPerEra
    omega
  · rw [yearStart_succ]
    unfold IsLeap
    split_ifs <;> omega

theorem valid_ofMarch {year : Int} {day : Nat}
    (inside : yearStart year + day < yearStart (year + 1)) : (Date.ofMarch year day).Valid := by
  rw [yearStart_succ] at inside
  obtain ⟨march, hm⟩ : ∃ march, march = (5 * day + 2) / 153 := ⟨_, rfl⟩
  have short : day ≤ 365 := by split_ifs at inside <;> omega
  simp only [Date.ofMarch, ← hm]
  by_cases spring : march < 10
  · simp only [spring, if_true]
    refine ⟨by dsimp only; omega, ?_⟩
    dsimp only [monthLength]
    split_ifs <;> omega
  · have late : march - 9 ≤ 2 := by omega
    simp only [spring, if_false, late, if_true]
    refine ⟨by dsimp only; omega, ?_⟩
    dsimp only [monthLength]
    split_ifs at inside ⊢ <;> omega

theorem valid_ofDays (days : Int) : (Date.ofDays days).Valid := by
  obtain ⟨year, day, same, -, inside⟩ := ofDays_eq_ofMarch days
  rw [same]
  exact valid_ofMarch inside

/-! ### From a date to a day -/

theorem toDays_eq (d : Date) :
    d.toDays = yearStart d.marchYear + (153 * d.march + 2) / 5 + d.day - 1 - epochShift := by
  have parts (year : Int) : year / 400 * daysPerEra +
      (year % 400 * 365 + year % 400 / 4 - year % 400 / 100) = yearStart year := by
    unfold yearStart daysPerEra
    omega
  unfold Date.toDays
  simp only [Int.fdiv_eq_ediv_of_nonneg _ (by decide : (0 : Int) ≤ 4),
    Int.fdiv_eq_ediv_of_nonneg _ (by decide : (0 : Int) ≤ 5),
    Int.fdiv_eq_ediv_of_nonneg _ (by decide : (0 : Int) ≤ 100),
    Int.fdiv_eq_ediv_of_nonneg _ (by decide : (0 : Int) ≤ 400),
    Int.fmod_eq_emod_of_nonneg _ (by decide : (0 : Int) ≤ 400)]
  rw [← parts]
  unfold Date.march Date.marchYear
  omega

theorem toDays_ofMarch (year : Int) {day : Nat} (short : day ≤ 365) :
    (Date.ofMarch year day).toDays = yearStart year + day - epochShift := by
  obtain ⟨march, hm⟩ : ∃ march, march = (5 * day + 2) / 153 := ⟨_, rfl⟩
  have same_year : (Date.ofMarch year day).marchYear = year := by
    simp only [Date.ofMarch, Date.marchYear]
    split_ifs <;> omega
  have same_month : (Date.ofMarch year day).march = march := by
    simp only [Date.ofMarch, Date.march]
    split_ifs <;> omega
  rw [toDays_eq, same_year, same_month]
  simp only [Date.ofMarch]
  omega

/-- A day is found again by its date. -/
theorem toDays_ofDays (days : Int) : (Date.ofDays days).toDays = days := by
  obtain ⟨year, day, same, whole, inside⟩ := ofDays_eq_ofMarch days
  rw [yearStart_succ] at inside
  have short : day ≤ 365 := by split_ifs at inside <;> omega
  rw [same, toDays_ofMarch year short]
  omega

/-! ### The order of dates -/

namespace Date

variable {d e : Date}

theorem Valid.march_bounds (valid : d.Valid) : 0 ≤ d.march ∧ d.march ≤ 11 := by
  obtain ⟨low, high⟩ := valid.month
  unfold Date.march
  split_ifs <;> omega

/-- A month ends where the next one begins. -/
theorem Valid.month_end (valid : d.Valid) (before : d.march ≤ 10) :
    (153 * d.march + 2) / 5 + monthLength d.year d.month = (153 * (d.march + 1) + 2) / 5 := by
  obtain ⟨year, month, day⟩ := d
  obtain ⟨low, high⟩ := valid.month
  dsimp only at low high
  interval_cases month <;> simp [Date.march, monthLength] at before ⊢

/-- February ends where the next year begins. -/
theorem Valid.year_end (valid : d.Valid) (last : d.march = 11) :
    yearStart d.marchYear + (153 * d.march + 2) / 5 + monthLength d.year d.month =
      yearStart (d.marchYear + 1) := by
  obtain ⟨year, month, day⟩ := d
  obtain ⟨low, high⟩ := valid.month
  obtain rfl : month = 2 := by
    simp only [Date.march] at last low high
    split_ifs at last <;> omega
  rw [yearStart_succ]
  simp only [Date.march, Date.marchYear, monthLength, le_refl, if_true, Int.sub_add_cancel]
  split_ifs <;> omega

theorem toDays_lt_toDays (first : d.Valid) (second : e.Valid) (earlier : d < e) :
    d.toDays < e.toDays := by
  have order : d.marchYear < e.marchYear ∨ d.marchYear = e.marchYear ∧
      (d.march < e.march ∨ d.march = e.march ∧ d.day < e.day) := by
    obtain ⟨low, high⟩ := first.month
    obtain ⟨low', high'⟩ := second.month
    rw [lt_iff] at earlier
    unfold Date.march Date.marchYear
    split_ifs <;> omega
  have positive := second.day.1
  rw [toDays_eq, toDays_eq]
  have short := first.day.2
  have bounds := first.march_bounds
  have bounds' := second.march_bounds
  rcases order with years | ⟨same, months | ⟨same', days⟩⟩
  · have later : yearStart (d.marchYear + 1) ≤ yearStart e.marchYear := yearStart_mono (by omega)
    by_cases before : d.march ≤ 10
    · have ends := first.month_end before
      have longer := yearStart_succ d.marchYear
      split_ifs at longer <;> omega
    · have ends := first.year_end (by omega)
      omega
  · have ends := first.month_end (by omega)
    rw [same]
    omega
  · rw [same, same']
    omega

theorem valid_next (valid : d.Valid) : d.next.Valid := by
  obtain ⟨⟨low, high⟩, first, -⟩ := valid
  have positive (year : Int) (month : Nat) : 1 ≤ monthLength year month := by
    unfold monthLength
    split_ifs <;> decide
  unfold next
  split_ifs with inside more
  · exact ⟨⟨low, high⟩, Nat.le_succ_of_le first, inside⟩
  · exact ⟨⟨Nat.le_add_left .., more⟩, Nat.le_refl 1, positive _ _⟩
  · exact ⟨⟨Nat.le_refl 1, (by decide : 1 ≤ 12)⟩, Nat.le_refl 1, positive _ _⟩

theorem next_of_month_end (valid : d.Valid) (ended : ¬ d.day < monthLength d.year d.month)
    (before : d.march ≤ 10) :
    d.next.marchYear = d.marchYear ∧ d.next.march = d.march + 1 ∧ d.next.day = 1 := by
  obtain ⟨year, month, day⟩ := d
  obtain ⟨low, high⟩ := valid.month
  dsimp only at low high ended
  interval_cases month <;> simp [next, ended, marchYear, march] at before ⊢

theorem next_of_year_end (valid : d.Valid) (ended : ¬ d.day < monthLength d.year d.month)
    (last : d.march = 11) :
    d.next.marchYear = d.marchYear + 1 ∧ d.next.march = 0 ∧ d.next.day = 1 := by
  obtain ⟨year, month, day⟩ := d
  obtain ⟨low, high⟩ := valid.month
  dsimp only at low high ended
  interval_cases month <;> simp [next, ended, marchYear, march] at last ⊢

theorem toDays_next (valid : d.Valid) : d.next.toDays = d.toDays + 1 := by
  have short := valid.day.2
  have bounds := valid.march_bounds
  rw [toDays_eq, toDays_eq]
  by_cases inside : d.day < monthLength d.year d.month
  · simp only [next, if_pos inside, marchYear, march]
    omega
  · by_cases before : d.march ≤ 10
    · obtain ⟨same, following, first⟩ := next_of_month_end valid inside before
      have ends := valid.month_end before
      rw [same, following, first]
      omega
    · obtain ⟨later, begins, first⟩ := next_of_year_end valid inside (by omega)
      have ends := valid.year_end (by omega)
      rw [later, begins, first]
      omega

end Date

/-- Later days have later dates. -/
theorem ofDays_lt_ofDays {m n : Int} (earlier : m < n) : Date.ofDays m < Date.ofDays n := by
  rcases (Date.ofDays m).lt_or_eq_or_gt (Date.ofDays n) with less | same | greater
  · exact less
  · have := congrArg Date.toDays same
    rw [toDays_ofDays, toDays_ofDays] at this
    omega
  · have := Date.toDays_lt_toDays (valid_ofDays n) (valid_ofDays m) greater
    rw [toDays_ofDays, toDays_ofDays] at this
    omega

/-- Day 0 is the first of January of 1970. -/
theorem ofDays_zero : Date.ofDays 0 = ⟨1970, 1, 1⟩ := by decide

/-- The date of the next day is the next date. -/
theorem ofDays_succ (n : Int) : Date.ofDays (n + 1) = (Date.ofDays n).next := by
  have valid := valid_ofDays n
  have next := Date.toDays_next valid
  rw [toDays_ofDays] at next
  rcases (Date.ofDays (n + 1)).lt_or_eq_or_gt (Date.ofDays n).next with less | same | greater
  · have := Date.toDays_lt_toDays (valid_ofDays _) (Date.valid_next valid) less
    rw [toDays_ofDays] at this
    omega
  · exact same
  · have := Date.toDays_lt_toDays (Date.valid_next valid) (valid_ofDays _) greater
    rw [toDays_ofDays] at this
    omega

end RoomHub.Calendar
