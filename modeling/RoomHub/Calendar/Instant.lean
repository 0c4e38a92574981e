import RoomHub.Calendar.Civil
import RoomHub.Text.Digits

/-!
# Instants and their RFC 3339 texts

An `Instant` counts seconds and nanoseconds from 1970-01-01T00:00:00Z.  In a leap second the
nanoseconds run on to two thousand million.  `Instant.toMillisText` writes exactly three fraction
digits, `Instant.toText` as many groups of three as are needed.
-/

namespace RoomHub.Calendar

open Text

/-- The first second of the first year that has instants, -262143. -/
def firstSecond : Int := -8334601228800

/-- The last second of the last year that has instants, 262142. -/
def lastSecond : Int := 8210266876799

/-- A point in time in UTC.  Only the last second of a minute can be followed by a leap second. -/
structure Instant where
  seconds : Int
  nanos : Nat
  nanos_lt : nanos < 2000000000
  leap : 1000000000 ≤ nanos → seconds % 60 = 59
  inRange : firstSecond ≤ seconds ∧ seconds ≤ lastSecond
  deriving DecidableEq

namespace Instant

/-- The instant of a number of seconds and nanoseconds, if there is one. -/
def ofParts? (seconds : Int) (nanos : Nat) : Option Instant :=
  if h : nanos < 2000000000 ∧ (1000000000 ≤ nanos → seconds % 60 = 59) ∧
      (firstSecond ≤ seconds ∧ seconds ≤ lastSecond) then
    some ⟨seconds, nanos, h.1, h.2.1, h.2.2⟩
  else none

/-- The instant of a number of milliseconds, if there is one. -/
def ofMillis? (millis : Int) : Option Instant :=
  ofParts? (millis.fdiv 1000) ((millis.fmod 1000).toNat * 1000000)

/-- The start of 1970. -/
def epoch : Instant := ⟨0, 0, by decide, by decide, by decide⟩

/-- Earlier seconds come first, within a second fewer nanoseconds. -/
instance : LE Instant where
  le a b := a.seconds < b.seconds ∨ (a.seconds = b.seconds ∧ a.nanos ≤ b.nanos)

instance (a b : Instant) : Decidable (a ≤ b) :=
  inferInstanceAs (Decidable (a.seconds < b.seconds ∨ (a.seconds = b.seconds ∧ a.nanos ≤ b.nanos)))

/-- The nanoseconds within the second that is shown: a leap second starts again at zero. -/
def shownNanos (t : Instant) : Nat :=
  t.nanos % 1000000000

/-- The second of the minute that is shown, 60 in a leap second. -/
def shownSecond (t : Instant) : Nat :=
  (t.seconds % 60).toNat + t.nanos / 1000000000

/-- Years 0 to 9999 take four digits; others a sign and at least four. -/
def yearText (year : Int) : List Char :=
  if 0 ≤ year ∧ year ≤ 9999 then fixedDigits 4 year.toNat
  else (if year < 0 then '-' else '+') :: paddedDigits 4 year.natAbs

/-- The date and the time of day up to the whole second. -/
def secondText (t : Instant) : List Char :=
  let date := Date.ofDays (t.seconds / 86400)
  let second := (t.seconds % 86400).toNat
  yearText date.year ++ '-' :: fixedDigits 2 date.month ++ '-' :: fixedDigits 2 date.day ++
    'T' :: fixedDigits 2 (second / 3600) ++ ':' :: fixedDigits 2 (second / 60 % 60) ++
    ':' :: fixedDigits 2 t.shownSecond

/-- The instant with three fraction digits, truncated. -/
def millisChars (t : Instant) : List Char :=
  t.secondText ++ '.' :: fixedDigits 3 (t.shownNanos / 1000000) ++ ['Z']

/-- The instant with three fraction digits, truncated. -/
def toMillisText (t : Instant) : String :=
  String.ofList t.millisChars

/-- The fraction of a second in no, three, six or nine digits, whichever is exact. -/
def fractionText (nanos : Nat) : List Char :=
  if nanos = 0 then []
  else if nanos % 1000000 = 0 then '.' :: fixedDigits 3 (nanos / 1000000)
  else if nanos % 1000 = 0 then '.' :: fixedDigits 6 (nanos / 1000)
  else '.' :: fixedDigits 9 nanos

/-- The instant with as many fraction digits as it needs. -/
def toText (t : Instant) : String :=
  String.ofList (t.secondText ++ fractionText t.shownNanos ++ ['Z'])

end Instant

end RoomHub.Calendar
