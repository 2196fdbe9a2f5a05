import Gatehouse.Failure
import Gatehouse.Time.Timestamp

/-! # Timestamps from fields

A timestamp is put together from its fields, and from an offset if there is one. The offset is
looked at first, then whether every field fits a machine word, and only then whether it is in
range, from the largest unit to the smallest. -/

namespace Gatehouse

namespace Duration

/-- The parts under their names. -/
def parts (d : Duration) : List (String × Int) :=
  [("days", d.days), ("seconds", d.seconds), ("microseconds", d.microseconds)]

/-- A duration as a record of its parts, without those that are zero. -/
def shown (d : Duration) : String :=
  let parts := d.parts.filter fun p => p.2 != 0
  "datetime.timedelta(" ++
    (if parts.isEmpty then "0"
      else String.intercalate ", " (parts.map fun p => p.1 ++ "=" ++ toString p.2)) ++ ")"

end Duration

namespace Timestamp

/-- What keeps fields from being a timestamp. -/
inductive Fault
  /-- A number is too large to be looked at. -/
  | tooLarge
  | offset (d : Duration)
  | year (y : Int)
  | month
  | day
  | hour
  | minute
  | second
  | micro
  deriving DecidableEq, Repr

namespace Fault

/-- The failure of a field that has a range. -/
def outside (field range : String) : Failure := .value (field ++ " must be in " ++ range)

/-- What a fault is reported as. -/
def failure : Fault → Failure
  | tooLarge => .overflow ""
  | offset d => .value ("offset must be a timedelta strictly between -timedelta(hours=24) " ++
      "and timedelta(hours=24), not " ++ d.shown ++ ".")
  | year y => .value ("year " ++ toString y ++ " is out of range")
  | month => outside "month" "1..12"
  | day => .value "day is out of range for month"
  | hour => outside "hour" "0..23"
  | minute => outside "minute" "0..59"
  | second => outside "second" "0..59"
  | micro => outside "microsecond" "0..999999"

end Fault

/-- Fields of a timestamp that may be out of range. -/
structure Fields where
  year : Int
  month : Int
  day : Int
  hour : Int
  minute : Int
  second : Int
  micro : Int

namespace Fields

/-- All fields, from the largest unit to the smallest. -/
def numbers (f : Fields) : List Int :=
  [f.year, f.month, f.day, f.hour, f.minute, f.second, f.micro]

/-- Whether a number fits a machine word with a sign. -/
def fitsWord (n : Int) : Bool := -2147483648 ≤ n && n < 2147483648

end Fields

/-- The timestamp with these fields and this offset. -/
def ofFields (f : Fields) (offset : Option Duration) : Except Fault Timestamp :=
  let c : CivilTime :=
    ⟨f.year.toNat, f.month.toNat, f.day.toNat, f.hour.toNat, f.minute.toNat, f.second.toNat,
      f.micro.toNat⟩
  if offset.any fun d => !decide d.InRange then .error .tooLarge
  else if hoffset : ∀ o ∈ offset.map Duration.micros, -offsetLimit < o ∧ o < offsetLimit then
    if !f.numbers.all Fields.fitsWord then .error .tooLarge
    else if ¬(1 ≤ f.year ∧ f.year ≤ 9999) then .error (.year f.year)
    else if ¬(1 ≤ f.month ∧ f.month ≤ 12) then .error .month
    else if ¬(1 ≤ f.day ∧ f.day ≤ Calendar.daysInMonth c.year c.month) then .error .day
    else if ¬(0 ≤ f.hour ∧ f.hour ≤ 23) then .error .hour
    else if ¬(0 ≤ f.minute ∧ f.minute ≤ 59) then .error .minute
    else if ¬(0 ≤ f.second ∧ f.second ≤ 59) then .error .second
    else if ¬(0 ≤ f.micro ∧ f.micro ≤ 999999) then .error .micro
    else if hcivil : c.Valid then .ok ⟨c, offset.map Duration.micros, hcivil, hoffset⟩
    else .error .day
  else .error (.offset (offset.getD Duration.zero))

end Timestamp

end Gatehouse
