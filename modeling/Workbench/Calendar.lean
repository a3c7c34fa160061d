/-!
# The calendar

Dates of the Gregorian calendar in the years 1 to 9999, and the weeks of a year.

* `Calendar.isLeap`, `Calendar.daysInMonth`: the shape of a year;
* `Date`, `Date.ofParts?`: a date, and the check of its parts;
* `Date.ordinal`: the number of a day, the first of January of the year 1 being day 1;
* `Date.ofWeek?`: the date of a day in a numbered week. The first week of a year is the one with
  its first Thursday.
-/

namespace Workbench

namespace Calendar

/-- Every fourth year is a leap year, save the centuries that 400 does not divide. -/
def isLeap (year : Nat) : Bool := year % 4 == 0 && (year % 100 != 0 || year % 400 == 0)

/-- The days of a year. -/
def daysInYear (year : Nat) : Nat := if isLeap year then 366 else 365

/-- The days of a month, none for a number that is not a month. -/
def daysInMonth (year month : Nat) : Nat :=
  match month with
  | 1 | 3 | 5 | 7 | 8 | 10 | 12 => 31
  | 4 | 6 | 9 | 11 => 30
  | 2 => if isLeap year then 29 else 28
  | _ => 0

/-- The days of the years before `year`, from the year 1 on. -/
def daysBeforeYear (year : Nat) : Nat :=
  let y := year - 1
  365 * y + y / 4 - y / 100 + y / 400

/-- The days of the months before `month`. -/
def daysBeforeMonth (year : Nat) : (month : Nat) → Nat
  | 0 => 0
  | m + 1 => daysBeforeMonth year m + daysInMonth year m

/-- The month and the day of the month for the day `day` of a year, counted from zero; `month` is
the first month looked at and `left` bounds the months. -/
def monthAndDay (year : Nat) : (left month day : Nat) → Nat × Nat
  | 0, month, day => (month, day + 1)
  | left + 1, month, day =>
    if day < daysInMonth year month then (month, day + 1)
    else monthAndDay year left (month + 1) (day - daysInMonth year month)

/-- The last year. -/
def lastYear : Nat := 9999

end Calendar

open Calendar

/-- A date. -/
structure Date where
  year : Nat
  month : Nat
  day : Nat
  deriving DecidableEq

namespace Date

/-- The date with these parts, if there is one. -/
def ofParts? (year month day : Nat) : Option Date :=
  if 1 ≤ year ∧ year ≤ lastYear ∧ 1 ≤ day ∧ day ≤ daysInMonth year month then
    some ⟨year, month, day⟩
  else none

/-- The number of a day. -/
def ordinal (d : Date) : Nat :=
  daysBeforeYear d.year + daysBeforeMonth d.year d.month + d.day

/-- The ordinal of the Monday of the first week of a year. -/
def firstMonday (year : Nat) : Nat :=
  let first := daysBeforeYear year + 1
  let weekday := (first + 6) % 7
  if 3 < weekday then first + 7 - weekday else first - weekday

/-- The weeks of a year: 53 when its first of January is a Thursday, or a Wednesday of a leap
year. -/
def weeksInYear (year : Nat) : Nat :=
  let weekday := (daysBeforeYear year + 1) % 7
  if weekday = 4 ∨ (weekday = 3 ∧ isLeap year = true) then 53 else 52

/-- The date of an ordinal in `year` or in the year before or after it. -/
def ofOrdinalNear? (year ordinal : Nat) : Option Date :=
  let year :=
    if ordinal ≤ daysBeforeYear year then year - 1
    else if daysBeforeYear (year + 1) < ordinal then year + 1
    else year
  if 1 ≤ year ∧ year ≤ lastYear then
    let (month, day) := monthAndDay year 12 1 (ordinal - daysBeforeYear year - 1)
    some ⟨year, month, day⟩
  else none

/-- The date of a day of a week, the days of a week being counted from Monday. -/
def ofWeek? (year week day : Nat) : Option Date :=
  if 1 ≤ year ∧ year ≤ lastYear ∧ 1 ≤ week ∧ week ≤ weeksInYear year ∧ 1 ≤ day ∧ day ≤ 7 then
    ofOrdinalNear? year (firstMonday year + (week - 1) * 7 + (day - 1))
  else none

end Date

end Workbench
