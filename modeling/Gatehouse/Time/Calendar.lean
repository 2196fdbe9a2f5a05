/-! # The calendar

Dates of the Gregorian calendar, extended over all years, and their day numbers; day 0 is
1970-01-01. -/

namespace Gatehouse.Calendar

def isLeap (year : Nat) : Bool :=
  year % 4 == 0 && (year % 100 != 0 || year % 400 == 0)

/-- Days of a month; month 0 and months after the twelfth have none. -/
def daysInMonth (year month : Nat) : Nat :=
  match month with
  | 1 | 3 | 5 | 7 | 8 | 10 | 12 => 31
  | 4 | 6 | 9 | 11 => 30
  | 2 => if isLeap year then 29 else 28
  | _ => 0

/-- Days from the first of January of year 1 to that of `year`. -/
def daysBeforeYear (year : Nat) : Nat :=
  365 * (year - 1) + (year - 1) / 4 - (year - 1) / 100 + (year - 1) / 400

def daysBeforeMonth (year : Nat) : Nat → Nat
  | 0 => 0
  | 1 => 0
  | month + 1 => daysBeforeMonth year month + daysInMonth year month

/-- Days from 0001-01-01 to 1970-01-01. -/
def epochDays : Nat := 719162

/-- Days since the start of 1970. -/
def dayNumber (year month day : Nat) : Int :=
  (daysBeforeYear year + daysBeforeMonth year month + (day - 1) : Nat) - (epochDays : Int)

/-- The month and day of a day of the year, counted from zero, given the months still to try. -/
def monthAndDay (year : Nat) : Nat → Nat → Nat → Nat × Nat
  | 0, month, day => (month, day + 1)
  | left + 1, month, day =>
    if day < daysInMonth year month then (month, day + 1)
    else monthAndDay year left (month + 1) (day - daysInMonth year month)

/-- Year, month and day of a count of days since 0001-01-01. Whole cycles of 400, 100, 4 and 1
years are taken off; the last day of a cycle belongs to its last year. -/
def ofDays (days : Nat) : Nat × Nat × Nat :=
  let n400 := days / 146097
  let r := days % 146097
  let n100 := min (r / 36524) 3
  let r := r - n100 * 36524
  let n4 := r / 1461
  let r := r % 1461
  let n1 := min (r / 365) 3
  let r := r - n1 * 365
  let year := 400 * n400 + 100 * n100 + 4 * n4 + n1 + 1
  let (month, day) := monthAndDay year 11 1 r
  (year, month, day)

end Gatehouse.Calendar
