import Gatehouse.Persistence.Periodic

/-! # Watching a periodic run

Other work sleeps beside a periodic run and looks at what it has done by then. Whichever of the
two wakes up first may carry the other along, so the run is told when the watcher has woken up,
and the watcher what the run will do. -/

namespace Gatehouse

/-- Work beside a periodic run. -/
structure Watcher where
  /-- The turn that it has. -/
  waking : Waking
  /-- When it has woken up so far. -/
  visits : List Rat

namespace Watcher

/-- A watcher that has not slept yet. -/
def awake (waking : Waking) : Watcher := ⟨waking, []⟩

def now (w : Watcher) : Rat := w.waking.time

/-- What a run that began in the turn `start` does if it is cancelled in the turn of the
watcher. A run that outlives this is followed for so many cycles more. -/
def history (w : Watcher) (s : Schedule) (start : Waking) (more : Nat) : List Occurrence :=
  Periodic.history s (Periodic.cyclesWithin s (w.now - start.time) + more)
    (Periodic.begin s start w.visits w.waking)

/-- What the run has done before the turn of the watcher. -/
def past (w : Watcher) (s : Schedule) (start : Waking) : List Occurrence :=
  (w.history s start 0).filter Occurrence.early

/-- The turn after the present one. -/
def pass (w : Watcher) : Watcher := { w with waking := w.waking.next }

/-- A timer that goes off when it is due, or together with one that others have set. -/
def wakeAt (w : Watcher) (due : Rat) (others : List Rat) : Watcher :=
  let time := Waking.carried due w.now others
  ⟨.timer time due w.waking, w.visits ++ [time]⟩

/-- Sleeps beside a run that began in the turn `start`. -/
def sleep (w : Watcher) (s : Schedule) (start : Waking) (seconds : Rat) : Watcher :=
  if seconds ≤ 0 then w.pass
  else
    let due := Moment.after w.now seconds
    w.wakeAt due (((w.wakeAt due []).past s start).map fun o => o.waking.time)

/-- Waits until everything that is due has been done. -/
def settle (w : Watcher) : Watcher := { w with waking := .last w.now }

end Watcher

end Gatehouse
