/-
# Civil dates

Dates of the Gregorian calendar, continued in both directions, for days counted from the first
of January 1970.  Years are grouped into eras of 400 years, which have 146097 days each; inside
an era a year starts on the first of March, so that the leap day comes last.

Beside the date itself: the day of the week, the day of the year, the week of the year counted
from a chosen day, and the year and week of the ISO calendar.
-/
import Stencil.Text.Basic

namespace Stencil

/-- A date with its day of the week and of the year. -/
structure Civil where
  year : Int
  /-- From 1 to 12. -/
  month : Nat
  /-- From 1 to 31. -/
  day : Nat
  /-- From 0 for Monday to 6 for Sunday. -/
  weekday : Nat
  /-- From 1 to 366. -/
  ordinal : Nat
deriving DecidableEq

namespace Civil

/-- A year with a leap day. -/
def isLeap (year : Int) : Bool := year % 4 == 0 && (year % 100 != 0 || year % 400 == 0)

/-- The number of days of a year. -/
def yearLength (year : Int) : Nat := if isLeap year then 366 else 365

/-- The days of a year before the first of a month. -/
def daysBefore (year : Int) (month : Nat) : Nat :=
  let common := #[0, 31, 59, 90, 120, 151, 181, 212, 243, 273, 304, 334].getD (month - 1) 0
  if 2 < month ∧ isLeap year then common + 1 else common

/-- The date of a day counted from the first of January 1970. -/
def ofDays (days : Int) : Civil :=
  let shifted := days + 719468
  let era := shifted / 146097
  let dayOfEra := (shifted % 146097).toNat
  let yearOfEra := (dayOfEra - dayOfEra / 1460 + dayOfEra / 36524 - dayOfEra / 146096) / 365
  let dayOfYear := dayOfEra - (365 * yearOfEra + yearOfEra / 4 - yearOfEra / 100)
  let shiftedMonth := (5 * dayOfYear + 2) / 153
  let day := dayOfYear - (153 * shiftedMonth + 2) / 5 + 1
  let month := if shiftedMonth < 10 then shiftedMonth + 3 else shiftedMonth - 9
  let year := (yearOfEra : Int) + era * 400 + if month ≤ 2 then 1 else 0
  { year, month, day
    weekday := ((days + 3) % 7).toNat
    ordinal := daysBefore year month + day }

/-- The number of the week, where the first week starts with the first day of the year that
falls on `first` (0 for Monday) and the days before it belong to week 0. -/
def weekFrom (first : Nat) (d : Civil) : Nat :=
  (d.ordinal + 6 - (d.weekday + 7 - first) % 7) / 7

/-- The number of weeks of an ISO year, given its first of January. -/
def isoWeeks (year : Int) (firstWeekday : Nat) : Nat :=
  if firstWeekday = 3 ∨ (firstWeekday = 2 ∧ isLeap year) then 53 else 52

/-- The day of the week of the first of January. -/
def firstWeekday (d : Civil) : Nat := (d.weekday + 7 * 53 - (d.ordinal - 1)) % 7

/-- Year and week of the ISO calendar: a week belongs to the year of its Thursday. -/
def isoWeek (d : Civil) : Int × Nat :=
  let week : Int := ((d.ordinal : Int) - (d.weekday + 1) + 10) / 7
  if week < 1 then
    let before := d.year - 1
    (before, isoWeeks before ((d.firstWeekday + 7 * 53 - yearLength before) % 7))
  else if isoWeeks d.year d.firstWeekday < week then (d.year + 1, 1)
  else (d.year, week.toNat)

/-- The quarter of the year, from 1 to 4. -/
def quarter (d : Civil) : Nat := (d.month + 2) / 3

end Civil
end Stencil
