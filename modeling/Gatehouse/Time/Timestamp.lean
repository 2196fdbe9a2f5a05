import Gatehouse.Time.Calendar
import Gatehouse.Time.Duration

/-! # Timestamps

A date and a time of day as a wall clock shows them, to the microsecond, with the clock's offset
from universal time if it is known. Two timestamps that follow the rules of one zone are subtracted
as they stand; any others can be subtracted if both offsets are known or neither is. -/

namespace Gatehouse

/-- What a wall clock shows. -/
structure CivilTime where
  year : Nat
  month : Nat
  day : Nat
  hour : Nat
  minute : Nat
  second : Nat
  micro : Nat
  deriving DecidableEq, Repr

namespace CivilTime

/-- A day of the calendar, of a year of at most four digits, and a time of that day. -/
def Valid (c : CivilTime) : Prop :=
  (1 ≤ c.year ∧ c.year ≤ 9999) ∧ (1 ≤ c.month ∧ c.month ≤ 12) ∧
  (1 ≤ c.day ∧ c.day ≤ Calendar.daysInMonth c.year c.month) ∧
  c.hour < 24 ∧ c.minute < 60 ∧ c.second < 60 ∧ c.micro < 1000000

instance (c : CivilTime) : Decidable c.Valid :=
  inferInstanceAs (Decidable (_ ∧ _))

/-- Microseconds since the start of 1970, as if the clock showed universal time. -/
def micros (c : CivilTime) : Int :=
  ((Calendar.dayNumber c.year c.month c.day * 24 + c.hour) * 60 + c.minute) * 60000000 +
    c.second * 1000000 + c.micro

/-- The wall clock that shows such a count, if the year has at most four digits. -/
def ofMicros? (us : Int) : Option { c : CivilTime // c.Valid } :=
  let days := us / 86400000000 + Calendar.epochDays
  let rest := (us % 86400000000).toNat
  if days < 0 then none
  else
    let (year, month, day) := Calendar.ofDays days.toNat
    let c : CivilTime :=
      { year, month, day,
        hour := rest / 3600000000, minute := rest / 60000000 % 60,
        second := rest / 1000000 % 60, micro := rest % 1000000 }
    if h : c.Valid then some ⟨c, h⟩ else none

end CivilTime

/-- A moment that a wall clock in universal time can show. -/
structure UtcTime where
  /-- Microseconds since the start of 1970. -/
  micros : Int
  shown : (CivilTime.ofMicros? micros).isSome

namespace UtcTime

/-- The start of 1970. -/
def epoch : UtcTime := ⟨0, by decide +kernel⟩

/-- The moment so many microseconds after the start of 1970, if it can be shown. -/
def ofMicros? (us : Int) : Option UtcTime :=
  if h : (CivilTime.ofMicros? us).isSome then some ⟨us, h⟩ else none

end UtcTime

/-- An offset is less than a day either way. -/
def offsetLimit : Int := 86400000000

/-- What a wall clock shows, and how far ahead it is. -/
structure Timestamp where
  civil : CivilTime
  /-- Microseconds ahead of universal time. -/
  offset : Option Int
  civil_valid : civil.Valid
  offset_valid : ∀ o ∈ offset, -offsetLimit < o ∧ o < offsetLimit

namespace Timestamp

/-- What a clock in universal time shows. -/
def ofUtc (t : UtcTime) : Timestamp where
  civil := ((CivilTime.ofMicros? t.micros).get t.shown).1
  offset := some 0
  civil_valid := ((CivilTime.ofMicros? t.micros).get t.shown).2
  offset_valid := by intro o h; cases h; decide

/-- The earliest timestamp, in universal time. -/
def earliest : Timestamp where
  civil := ⟨1, 1, 1, 0, 0, 0, 0⟩
  offset := some 0
  civil_valid := by decide
  offset_valid := by intro o h; cases h; decide

/-- Microseconds since the start of 1970, on a clock of unknown offset by its own count. -/
def instant (t : Timestamp) : Int := t.civil.micros - t.offset.getD 0

/-- Whether the clock's offset is known. -/
def offsetKnown (t : Timestamp) : Bool := t.offset.isSome

/-- The time from `s` to `t`, unless just one of the offsets is known. What the clocks show counts
as it stands if both follow the rules of one zone. -/
def since? (oneZone : Bool) (t s : Timestamp) : Option Duration :=
  if oneZone then some ⟨t.civil.micros - s.civil.micros⟩
  else if t.offsetKnown = s.offsetKnown then some ⟨t.instant - s.instant⟩
  else none

end Timestamp

end Gatehouse
