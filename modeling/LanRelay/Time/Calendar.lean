/-
The proleptic Gregorian calendar: from a count of days to a date.

Years are counted from March, so that the day added in leap years is the last
one, and in eras of 400 years, which all have the same number of days.
-/
import LanRelay.Text.Digits

namespace LanRelay.Calendar

structure Date where
  year : Int
  month : Nat
  day : Nat
deriving DecidableEq, Repr

/-- The days of 400 years. -/
def daysPerEra : Nat := 146097

/-- The days from 0000-03-01 to 1970-01-01. -/
def epochDay : Nat := 719468

/-- The date that lies the given number of days after 1970-01-01. -/
def dateOfDay (day : Int) : Date :=
  let shifted := day + epochDay
  let era := shifted / daysPerEra
  let dayOfEra := (shifted % daysPerEra).toNat
  let yearOfEra :=
    (dayOfEra - dayOfEra / 1460 + dayOfEra / 36524 - dayOfEra / 146096) / 365
  let dayOfYear := dayOfEra - (365 * yearOfEra + yearOfEra / 4 - yearOfEra / 100)
  let marchMonth := (5 * dayOfYear + 2) / 153
  let month := if marchMonth < 10 then marchMonth + 3 else marchMonth - 9
  let year := era * 400 + yearOfEra
  { year := if month ≤ 2 then year + 1 else year
    month
    day := dayOfYear - (153 * marchMonth + 2) / 5 + 1 }

def isLeapYear (year : Nat) : Bool :=
  year % 4 == 0 && (year % 100 != 0 || year % 400 == 0)

/-- The number of days of a month; a month that is none has none. -/
def daysInMonth (year month : Nat) : Nat :=
  if month = 2 then if isLeapYear year then 29 else 28
  else if month ∈ [4, 6, 9, 11] then 30
  else if 1 ≤ month ∧ month ≤ 12 then 31
  else 0

/-- A decimal numeral with at least `width` digits. -/
def padded (width n : Nat) : String := Text.padStart '0' width (toString n)

end LanRelay.Calendar
