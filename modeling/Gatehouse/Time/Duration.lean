import Gatehouse.Text.Digits
import Gatehouse.Time.Moment

/-! # Durations

A signed count of microseconds and its text, such as `1h2m3.5s`, `250ms` or `0s`: microseconds
below a millisecond, milliseconds below a second, else hours, minutes and seconds, of which
leading zero parts are left out. -/

namespace Gatehouse

/-- A span of time to the microsecond. -/
structure Duration where
  micros : Int
  deriving DecidableEq, Repr, Inhabited

namespace Duration

open Text

/-- No time at all. -/
def zero : Duration := ⟨0⟩

/-- So many seconds. -/
def ofSeconds (s : Int) : Duration := ⟨s * 1000000⟩

/-- A count of units of so many microseconds, as whole microseconds and a part of one. What the
count has below one is scaled as a double. -/
def scale (unit : Int) (count : Rat) : Int × Rat :=
  let whole := count.num.tdiv count.den
  let part := Moment.nearest ((count - whole) * unit)
  let extra := part.num.tdiv part.den
  (whole * unit + extra, part - extra)

/-- The sum of counts of units; the parts of microseconds are added as doubles, and the sum is
rounded to the nearest microsecond. -/
def sum (counts : List (Int × Rat)) : Duration :=
  let scaled := counts.map fun c => scale c.1 c.2
  let whole : Int := scaled.foldl (fun n s => n + s.1) 0
  let part : Rat := scaled.foldl (fun t s => Moment.after t s.2) 0
  ⟨roundRat ((whole : Rat) + part)⟩

/-- So many seconds, of which there may be a part. -/
def ofRat (seconds : Rat) : Duration := sum [(1000000, seconds)]

/-- Durations reach a thousand million days either way. -/
def InRange (d : Duration) : Prop :=
  -999999999 * 86400000000 ≤ d.micros ∧ d.micros < 1000000000 * 86400000000

instance (d : Duration) : Decidable d.InRange :=
  inferInstanceAs (Decidable (_ ∧ _))

/-! ### Parts -/

/-- Whole days; of the parts only these can be negative. -/
def days (d : Duration) : Int := d.micros / 86400000000

/-- The whole seconds beyond the days. -/
def seconds (d : Duration) : Int := d.micros % 86400000000 / 1000000

/-- The microseconds beyond the seconds. -/
def microseconds (d : Duration) : Int := d.micros % 1000000

/-- The microseconds of all parts. -/
def count (d : Duration) : Int := (d.days * 86400 + d.seconds) * 1000000 + d.microseconds

@[simp] theorem count_eq (d : Duration) : d.count = d.micros := by
  unfold count days seconds microseconds
  omega

/-! ### The text -/

/-- At least a second, in hours, minutes and seconds. -/
def writeClock (us : Nat) : List Char :=
  let hours := us / 3600000000
  let minutes := us % 3600000000 / 60000000
  let seconds := us % 60000000
  (if hours = 0 then [] else Nat.toDigits 10 hours ++ ['h']) ++
  (if hours = 0 ∧ minutes = 0 then [] else Nat.toDigits 10 minutes ++ ['m']) ++
  writeScaled 6 seconds ++ ['s']

/-- The text without a sign. -/
def writeMagnitude (us : Nat) : List Char :=
  if us < 1000 then Nat.toDigits 10 us ++ ['µ', 's']
  else if us < 1000000 then writeScaled 3 us ++ ['m', 's']
  else writeClock us

/-- The text, as characters. -/
def writeChars (d : Duration) : List Char :=
  if d.count = 0 then ['0', 's']
  else if d.count < 0 then '-' :: writeMagnitude d.count.natAbs
  else writeMagnitude d.count.natAbs

/-- The text of a duration. -/
def write (d : Duration) : String := String.ofList d.writeChars

end Duration

end Gatehouse
