import Gatehouse.Log.Event
import Gatehouse.Persistence.Marker
import Gatehouse.Script.Run

/-! # The periodic run

A job runs again and again, each time an interval after it ended. A job that fails is logged; one
that does not has persisted, and the marker is set to what the clock shows then. The run ends
when it is cancelled or its clock fails. -/

namespace Gatehouse

/-- What may happen in a periodic run. -/
inductive Happening
  | called
  | failed (f : Failure)
  | persisted (t : Timestamp)
  | ended (f : Failure)

/-- Something that has happened, and when. -/
structure Occurrence where
  /-- The turn in which it happens. -/
  waking : Waking
  /-- Whether a cancellation from outside is still to come. -/
  early : Bool
  what : Happening

/-- What a periodic run is made of: the scripts of its jobs, one after the other, and its clock,
which may fail; it is told how often it was read before, and the time. -/
structure Schedule where
  /-- That of the event loop. -/
  reckoning : Reckoning
  interval : Rat
  job : Nat → Script
  clock : Nat → Rat → Except Failure Timestamp

/-- Where a periodic run stands, and how often it has called its job and read the clock. -/
structure Periodic where
  run : Run
  calls : Nat
  readings : Nat

namespace Periodic

/-- A run that begins in a turn and is cancelled in another; between them other work wakes up at
`visits`. -/
def begin (s : Schedule) (start : Waking) (visits : List Rat) (stop : Waking) : Periodic :=
  ⟨Run.begin s.reckoning start visits (some (.stop stop)), 0, 0⟩

def occurrence (r : Run) (what : Happening) : Occurrence := ⟨r.waking, r.interrupt.isSome, what⟩

/-- What happens when a job is over, and whether the run goes on. -/
def conclude (s : Schedule) (p : Periodic) : Run × Outcome → Occurrence × Option Periodic
  | (r, .ok ()) =>
    match s.clock p.readings r.now with
    | .ok t => (occurrence r (.persisted t), some ⟨r, p.calls + 1, p.readings + 1⟩)
    | .error f => (occurrence r (.ended f), none)
  | (r, .error f) =>
    if f.isCancelled then (occurrence r (.ended f), none)
    else (occurrence r (.failed f), some ⟨r, p.calls + 1, p.readings⟩)

/-- One interval and one job. -/
def cycle (s : Schedule) (p : Periodic) : List Occurrence × Option Periodic :=
  match Run.suspend s.interval p.run with
  | (r, .error f) => ([occurrence r (.ended f)], none)
  | (r, .ok ()) =>
    let (last, next) := conclude s p (Run.exec .prompt (s.job p.calls) r)
    ([occurrence r .called, last], next)

/-- Everything that happens in the next cycles. -/
def history (s : Schedule) : Nat → Periodic → List Occurrence
  | 0, _ => []
  | n + 1, p =>
    let (happened, next) := cycle s p
    happened ++ match next with
      | none => []
      | some p => history s n p

/-- More cycles than can begin in a span of time. -/
def cyclesWithin (s : Schedule) (span : Rat) : Nat :=
  if 0 < s.interval then 2 * (span / s.interval).ceil.toNat + 2 else 0

end Periodic

/-! ### Reading a history -/

namespace Occurrence

/-- Whether the job is called. -/
def isCall (o : Occurrence) : Bool :=
  match o.what with
  | .called => true
  | _ => false

/-- The failure that the run ends with. -/
def failure? (o : Occurrence) : Option Failure :=
  match o.what with
  | .ended f => some f
  | _ => none

/-- The event that is logged of it. -/
def event? (o : Occurrence) : Option Event :=
  match o.what with
  | .failed f => some ⟨.error, .scheduler, "persist_cycle_failed", [Event.failureField f]⟩
  | _ => none

end Occurrence

/-- The marker after a history. -/
def Marker.after (m : Marker) (history : List Occurrence) : Marker :=
  history.foldl (fun m o => match o.what with
    | .persisted t => m.set t
    | _ => m) m

end Gatehouse
