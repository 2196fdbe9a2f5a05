import Gatehouse.Time.Moment

/-! # Turns

The event loop runs in rounds. In a round every piece of work that is ready has its turn, in the
order in which it became ready; when none is ready, time jumps to the next timer, and all timers
that go off together with it make their work ready, in the order of the moments they were set
for. `Waking` is the history of a turn, and `Waking.precedes` the order of turns. -/

namespace Gatehouse

/-- How it came to a turn. -/
inductive Waking
  /-- The work was the first of all. -/
  | first (time : Rat)
  /-- A timer for `due`, set in the turn `since`, went off at `time`. -/
  | timer (time due : Rat) (since : Waking)
  /-- The turn before only let others have theirs. -/
  | turn (since : Waking)
  /-- Everything else had been done. -/
  | last (time : Rat)
  deriving DecidableEq, Repr

namespace Waking

/-- When a turn comes. -/
def time : Waking → Rat
  | first t => t
  | timer t _ _ => t
  | turn since => since.time
  | last t => t

/-- The turn after one that only lets others have theirs. -/
def next : Waking → Waking
  | last t => last t
  | w => turn w

/-- The round of a turn, counted from the last jump of time; a timer goes off in the round before
the turn of its work. -/
def round : Waking → Nat
  | first _ => 0
  | timer t _ since => if since.time < t then 1 else since.round + 2
  | turn since => since.round + 1
  | last _ => 0

/-- Whether the first turn comes before the second. -/
def precedes : Waking → Waking → Bool
  | p, last t => p.time ≤ t
  | last t, q => t < q.time
  | p, q =>
    if p.time ≠ q.time then p.time < q.time
    else if p.round ≠ q.round then p.round < q.round
    else match p, q with
      | timer _ due since, timer _ due' since' =>
        if due ≠ due' then due < due' else since.precedes since'
      | turn since, turn since' => since.precedes since'
      | timer .., turn _ => false
      | _, _ => true

/-- When a timer for `due` goes off that is set at `now` while others wake up at `visits`: they
carry it along if it is due together with them. -/
def carried (due now : Rat) (visits : List Rat) : Rat :=
  (visits.find? fun v => now < v && v < due && due < Moment.soon v).getD due

end Waking

end Gatehouse
