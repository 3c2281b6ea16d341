import SignedResponse.Text.Decimal
import SignedResponse.Time.Instant

/-!
The Gregorian calendar, and instants written as dates in UTC.

Years are counted from March inside each cycle of 400 years, so that the leap day is the last day
of its year and the day number follows from year, month and day by arithmetic alone.
-/

namespace SignedResponse

structure CivilDate where
  year : Int
  month : Nat
  day : Nat
deriving DecidableEq

namespace CivilDate

def cycleDays : Int := 146097

def cycleStart : Int := -719468

/-- The date of a day number; day 0 is 1970-01-01. -/
def ofDay (number : Int) : CivilDate :=
  let sinceStart := number - cycleStart
  let cycle := sinceStart.fdiv cycleDays
  let dayOfCycle := (sinceStart - cycle * cycleDays).toNat
  let yearOfCycle :=
    (dayOfCycle - dayOfCycle / 1460 + dayOfCycle / 36524 - dayOfCycle / 146096) / 365
  let dayOfYear := dayOfCycle - (365 * yearOfCycle + yearOfCycle / 4 - yearOfCycle / 100)
  let monthFromMarch := (5 * dayOfYear + 2) / 153
  let month := if monthFromMarch < 10 then monthFromMarch + 3 else monthFromMarch - 9
  let marchYear := cycle * 400 + yearOfCycle
  { year := if month ≤ 2 then marchYear + 1 else marchYear
    month := month
    day := dayOfYear - (153 * monthFromMarch + 2) / 5 + 1 }

def toDay (date : CivilDate) : Int :=
  let marchYear := if date.month ≤ 2 then date.year - 1 else date.year
  let monthFromMarch := if date.month ≤ 2 then date.month + 9 else date.month - 3
  let cycle := marchYear.fdiv 400
  let yearOfCycle := (marchYear - cycle * 400).toNat
  let dayOfYear := (153 * monthFromMarch + 2) / 5 + date.day - 1
  let dayOfCycle : Nat := 365 * yearOfCycle + yearOfCycle / 4 - yearOfCycle / 100 + dayOfYear
  cycle * cycleDays + dayOfCycle + cycleStart

example : ofDay 19792 = ⟨2024, 3, 10⟩ ∧ ofDay (-1) = ⟨1969, 12, 31⟩ := by decide

example : toDay ⟨2000, 2, 29⟩ = 11016 ∧ toDay ⟨2000, 3, 1⟩ = 11017 := by decide

def isLeap (year : Int) : Bool := year % 4 == 0 && (year % 100 != 0 || year % 400 == 0)

def daysInMonth (year : Int) (month : Nat) : Nat :=
  if month = 2 then (if isLeap year then 29 else 28)
  else if month = 4 ∨ month = 6 ∨ month = 9 ∨ month = 11 then 30
  else 31

def ofNumbers? (year : Int) (month day : Nat) : Option CivilDate :=
  if 1 ≤ month ∧ month ≤ 12 ∧ 1 ≤ day ∧ day ≤ daysInMonth year month then
    some ⟨year, month, day⟩
  else none

def yearText (year : Int) : String :=
  if year < 0 then "-" ++ Decimal.padded 4 year.natAbs
  else if 9999 < year then "+" ++ Decimal.padded 4 year.natAbs
  else Decimal.padded 4 year.natAbs

def text (date : CivilDate) : String :=
  yearText date.year ++ "-" ++ Decimal.padded 2 date.month ++ "-" ++ Decimal.padded 2 date.day

end CivilDate

namespace Instant

def fractionText (nanoseconds : Nat) : String :=
  if nanoseconds = 0 then ""
  else if nanoseconds % 1000000 = 0 then "." ++ Decimal.padded 3 (nanoseconds / 1000000)
  else if nanoseconds % 1000 = 0 then "." ++ Decimal.padded 6 (nanoseconds / 1000)
  else "." ++ Decimal.padded 9 nanoseconds

/-- Date and time in UTC; a leap second is second 60 of its minute. -/
def text (instant : Instant) : String :=
  let secondOfDay := (instant.seconds - instant.day * secondsPerDay).toNat
  let leap := instant.nanoseconds / 1000000000
  (CivilDate.ofDay instant.day).text ++ " " ++ Decimal.padded 2 (secondOfDay / 3600) ++ ":" ++
    Decimal.padded 2 (secondOfDay / 60 % 60) ++ ":" ++ Decimal.padded 2 (secondOfDay % 60 + leap) ++
    fractionText (instant.nanoseconds % 1000000000) ++ " UTC"

end Instant

end SignedResponse
