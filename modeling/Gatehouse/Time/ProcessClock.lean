import Gatehouse.Failure
import Gatehouse.Time.Timestamp

/-! # Clocks

A clock in universal time tells the moment, unless it cannot be read. The process clock has been
read twice: when the process started, and now. -/

namespace Gatehouse

/-- What a clock in universal time shows, if it can be read. -/
abbrev Reading := Except Failure UtcTime

/-- The readings of a process clock. -/
structure ProcessClock where
  started : Timestamp
  now : Timestamp
  /-- Whether both follow the rules of one zone. -/
  oneZone : Bool

namespace ProcessClock

/-- Only one of the readings knows its offset. -/
def mixedOffsets : Failure := .type "can't subtract offset-naive and offset-aware datetimes"

/-- How long the process has run, if the readings can be compared. -/
def uptime (c : ProcessClock) : Except Failure Duration :=
  match Timestamp.since? c.oneZone c.now c.started with
  | some d => .ok d
  | none => .error mixedOffsets

end ProcessClock

end Gatehouse
