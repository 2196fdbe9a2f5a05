import Gatehouse.Script.Basic
import Gatehouse.Script.Waking

/-! # Running scripts

Time moves only while a script is suspended: it jumps to the moment at which the script goes on.
A time limit and a cancellation from outside both ask for the script to be cancelled; the first
suspension at which a request is due ends in `CancelledError` at that moment. All limits share
one count of requests: a limit that has rung takes its own request back when its scope is left,
and turns the cancellation into `TimeoutError` if no other request is left that counts. Which ones
count is not the same on all event loops, see `Reckoning`. -/

namespace Gatehouse

/-- How a piece of work ends. -/
abbrev Outcome := Except Failure Unit

/-- Which requests for cancellation keep a limit that has rung from taking the cancellation for its
own. -/
inductive Reckoning
  /-- All that are left. -/
  | all
  /-- Those that are left beyond as many as there were when its scope was entered. -/
  | sinceEntry
  deriving DecidableEq, Repr

/-- The time limit of a scope that has been entered. -/
structure Alarm where
  due : Option Rat
  /-- How many requests there were then. -/
  before : Nat
  rung : Bool
  deriving DecidableEq, Repr

namespace Alarm

/-- When the alarm is still to ring, if ever. -/
def pending (a : Alarm) : Option Rat := if a.rung then none else a.due

/-- The alarm after everything that is due has gone off. -/
def ring (isDue : Rat → Bool) (a : Alarm) : Alarm :=
  if a.pending.any isDue then { a with rung := true } else a

end Alarm

/-- A cancellation from outside. -/
inductive Interrupt
  /-- By a timer. -/
  | timer (due : Rat)
  /-- By other work in a turn of its own. -/
  | stop (waking : Waking)
  deriving DecidableEq, Repr

namespace Interrupt

/-- When its timer goes off, if it has one. -/
def due? : Interrupt → Option Rat
  | timer due => some due
  | stop _ => none

/-- The turn in which other work cancels, if it does. -/
def stop? : Interrupt → Option Waking
  | timer _ => none
  | stop w => some w

end Interrupt

/-- A message, and when it was handed over or delivered. -/
structure Sent where
  time : Rat
  message : Message

/-- Where a script stands. -/
structure Run where
  reckoning : Reckoning
  waking : Waking
  /-- When other work wakes up. -/
  visits : List Rat
  /-- How the script is cancelled from outside, until it has been. -/
  interrupt : Option Interrupt
  /-- Requests for cancellation that have not been taken back. -/
  requests : Nat
  /-- The limits of the scopes entered, innermost first. -/
  alarms : List Alarm
  /-- Messages handed to the caller's receiver, one for each of its calls. -/
  handed : List Sent
  /-- The status of the last response start that was tried. -/
  status : Json
  /-- Messages that the receiver has delivered. -/
  sent : List Sent
  marks : List (String × Rat)

namespace Run

/-- The present moment. -/
def now (r : Run) : Rat := r.waking.time

end Run

/-- Work that takes time. -/
abbrev Work := Run → Run × Outcome

namespace Work

/-- Nothing to do. -/
def succeed : Work := fun r => (r, .ok ())

/-- Work that has failed. -/
def fail (f : Failure) : Work := fun r => (r, .error f)

/-- One piece of work after another, which a failure of the first prevents. -/
def andThen (first second : Work) : Work := fun r =>
  match first r with
  | (r, .ok ()) => second r
  | (r, .error f) => (r, .error f)

theorem andThen_of_ok {first second : Work} {r s : Run} (h : first r = (s, .ok ())) :
    andThen first second r = second s := by
  simp [andThen, h]

theorem andThen_of_error {first second : Work} {r s : Run} {f : Failure}
    (h : first r = (s, .error f)) : andThen first second r = (s, .error f) := by
  simp [andThen, h]

end Work

namespace Run

/-! ### Suspension -/

/-- The moments at which a cancellation is due. -/
def dues (r : Run) : List Rat :=
  (r.interrupt.bind Interrupt.due?).toList ++ r.alarms.filterMap Alarm.pending

/-- The earliest of `t` and others. -/
def earliest (t : Rat) (others : List Rat) : Rat :=
  others.foldl (fun t u => if u < t then u else t) t

/-- Timers that are due together with now go off in the round that has begun, whatever they
were set for. -/
def hastened (r : Run) : Run :=
  let haste (t : Rat) : Rat := if r.now < t && t < Moment.soon r.now then r.now else t
  { r with
    interrupt := r.interrupt.map fun
      | .timer due => .timer (haste due)
      | stop => stop
    alarms := r.alarms.map fun a => { a with due := a.due.map haste } }

/-- Goes on in a turn. Everything that is due makes its request, and the script is cancelled if
there was any. -/
def resume (waking : Waking) (isDue : Rat → Bool) : Work := fun r =>
  let rung := r.dues.filter isDue
  ({ r with
     waking
     interrupt := r.interrupt.filter fun i => !i.due?.any isDue
     requests := r.requests + rung.length
     alarms := r.alarms.map (Alarm.ring isDue) }.hastened,
    if rung.isEmpty then .ok () else .error (.cancelled ""))

/-- Is cancelled by other work in its turn. -/
def stopped (stop : Waking) : Work := fun r =>
  let (r, _) := resume stop.next (fun t => t < Moment.soon stop.time)
    { r with interrupt := none, requests := r.requests + 1 }
  (r, .error (.cancelled ""))

/-- The turn in which a sleep ends, and what is due by then. A sleep of no length still lets others
have their turn. -/
def turnAfter (seconds : Rat) (r : Run) : Waking × (Rat → Bool) :=
  let timer := earliest (Moment.after r.now seconds) r.dues
  let time := Waking.carried timer r.now r.visits
  if seconds ≤ 0 then (r.waking.next, fun t => t ≤ r.now)
  else if r.dues.any fun t => t ≤ r.now then
    (r.waking.next.next, fun t => t < Moment.soon r.now)
  else (.timer time timer r.waking, fun t => t < Moment.soon time)

/-- Sleeps. Even a sleep of no length lets a cancellation through. -/
def suspend (seconds : Rat) : Work := fun r =>
  let next := turnAfter seconds r
  match r.interrupt.bind Interrupt.stop? with
  | some stop => if next.1.precedes stop then resume next.1 next.2 r else stopped stop r
  | none => resume next.1 next.2 r

/-- A run that begins in a turn. -/
def begin (reckoning : Reckoning) (waking : Waking) (visits : List Rat)
    (interrupt : Option Interrupt) : Run :=
  Run.hastened ⟨reckoning, waking, visits, interrupt, 0, [], [], .int 0, [], []⟩

/-! ### Scopes -/

/-- Enters a scope with a limit, or none. -/
def enter (limit : Option Rat) (r : Run) : Run :=
  { r with alarms := ⟨limit.map (Moment.after r.now), r.requests, false⟩ :: r.alarms }

/-- Whether the limit of the innermost scope has rung. -/
def expired (r : Run) : Bool := (r.alarms.head?.map Alarm.rung).getD false

/-- The run without its innermost scope, whose limit takes its request back if it has rung. -/
def left (r : Run) : Run :=
  { r with
    alarms := r.alarms.tail
    requests := if r.expired then r.requests - 1 else r.requests }

/-- How many requests may be left if the innermost scope is to take a cancellation for its own. -/
def excused (r : Run) : Nat :=
  match r.reckoning with
  | .all => 0
  | .sinceEntry => (r.alarms.head?.map Alarm.before).getD 0

/-- What a scope makes of the outcome of its work. -/
def translated (r : Run) : Outcome → Outcome
  | .error (.cancelled m) =>
    if r.expired && r.left.requests ≤ r.excused then .error (.timeout "")
    else .error (.cancelled m)
  | out => out

/-- The run after its innermost scope, and how that ends. -/
def leave (r : Run) (out : Outcome) : Run × Outcome := (r.left, r.translated out)

/-- Work under a time limit. -/
def scope (limit : Option Rat) (work : Work) : Work := fun r =>
  let (r, out) := work (r.enter limit)
  r.leave out

/-! ### Sending -/

/-- How the receiver of messages behaves: which of its calls fail, and how long each takes. -/
structure Receiver where
  failing : List Nat
  delay : Option Rat

/-- A receiver that takes every message at once. -/
def Receiver.prompt : Receiver := ⟨[], none⟩

/-- The receiver delivers a message. -/
def deliver (m : Message) : Work := fun r =>
  ({ r with sent := r.sent ++ [⟨r.now, m⟩] }, .ok ())

/-- The time that a call of the receiver takes. -/
def wait (sink : Receiver) : Work :=
  match sink.delay with
  | none => Work.succeed
  | some seconds => suspend seconds

/-- How a call ends, by its number. -/
def finish (sink : Receiver) (call : Nat) (m : Message) : Work :=
  if sink.failing.contains call then Work.fail (.os "") else deliver m

/-- One call of the receiver. -/
def send (sink : Receiver) (m : Message) : Work := fun r =>
  let handed := r.handed ++ [⟨r.now, m⟩]
  Work.andThen (wait sink) (finish sink handed.length m) { r with handed }

/-- Notes the status of a response start before it is sent; refuses a malformed message. -/
def note (m : Message) : Work := fun r =>
  match m with
  | .start none _ => (r, .error (.key "status"))
  | .start (some status) _ => ({ r with status }, .ok ())
  | .other none => (r, .error (.key "type"))
  | _ => (r, .ok ())

/-- Sends a message whose status has been noted. -/
def noteAndSend (sink : Receiver) (m : Message) : Work :=
  Work.andThen (note m) (send sink m)

/-! ### Scripts -/

/-- A failure whose name is caught goes to its handler. -/
def handle (caught : List String) (handler : String → Work) : Run × Outcome → Run × Outcome
  | (r, .ok ()) => (r, .ok ())
  | (r, .error f) => if caught.contains f.name then handler f.name r else (r, .error f)

/-- A failure of the clean-up counts more than what led to it. -/
def cleanUp (cleanup : Work) (result : Run × Outcome) : Run × Outcome :=
  match cleanup result.1 with
  | (r, .ok ()) => (r, result.2)
  | (r, .error f) => (r, .error f)

/-- Catches by name, then cleans up. -/
def recover (caught : List String) (handler : String → Work) (cleanup : Work)
    (result : Run × Outcome) : Run × Outcome :=
  cleanUp cleanup (handle caught handler result)

/-- Leaves a mark with the present moment. -/
def mark (name : String) : Work := fun r =>
  ({ r with marks := r.marks ++ [(name, r.now)] }, .ok ())

/-- Runs a script; its messages go where `give` takes them. -/
def execWith (give : Message → Work) : Script → Work
  | .done => Work.succeed
  | .sleep seconds next => Work.andThen (suspend seconds) (execWith give next)
  | .send message next => Work.andThen (give message) (execWith give next)
  | .fail failure => Work.fail failure
  | .mark name next => Work.andThen (mark name) (execWith give next)
  | .within limit body next => Work.andThen (scope limit (execWith give body)) (execWith give next)
  | .attempt body caught handler cleanup next =>
    Work.andThen
      (fun r => recover caught (fun name => execWith give (handler name)) (execWith give cleanup)
        (execWith give body r))
      (execWith give next)

/-- Runs a script; its response starts are noted before the receiver gets them. -/
def exec (sink : Receiver) : Script → Work := execWith (noteAndSend sink)

end Run

end Gatehouse
