/-!
# Civil dates

The proleptic Gregorian calendar as a bijection between days and dates.  Days are counted from
1970-01-01.  Internally years begin in March, so that the leap day is the last day of its year, of
its four years and of its four hundred years.
-/

namespace RoomHub.Calendar

/-- A date of the proleptic Gregorian calendar; the year before 1 is 0. -/
structure Date where
  year : Int
  month : Nat
  day : Nat
  deriving DecidableEq, Repr

/-- The days of 400 years. -/
def daysPerEra : Int := 146097

/-- The days from 0000-03-01 to 1970-01-01. -/
def epochShift : Int := 719468

/-- The date that lies `days` days after 1970-01-01.  The day of the era splits into centuries, four
year cycles and years; the last century and the last year of a cycle have one day more, hence the
minima. -/
def Date.ofDays (days : Int) : Date :=
  let shifted := days + epochShift
  let era := shifted.fdiv daysPerEra
  let day := (shifted.fmod daysPerEra).toNat
  let century := min 3 (day / 36524)
  let day := day - century * 36524
  let cycle := day / 1461
  let day := day - cycle * 1461
  let year := min 3 (day / 365)
  let day := day - year * 365
  let march := (5 * day + 2) / 153
  let month := if march < 10 then march + 3 else march - 9
  let carry : Int := if month ≤ 2 then 1 else 0
  { year := era * 400 + (century * 100 + cycle * 4 + year : Nat) + carry
    month := month
    day := day - (153 * march + 2) / 5 + 1 }

/-- The days from 1970-01-01 to a date. -/
def Date.toDays (d : Date) : Int :=
  let year := if d.month ≤ 2 then d.year - 1 else d.year
  let era := year.fdiv 400
  let yearOfEra := year.fmod 400
  let march : Int := if d.month ≤ 2 then d.month + 9 else d.month - 3
  let dayOfYear := (153 * march + 2).fdiv 5 + d.day - 1
  era * daysPerEra + (yearOfEra * 365 + yearOfEra.fdiv 4 - yearOfEra.fdiv 100 + dayOfYear) -
    epochShift

end RoomHub.Calendar
