import Gatehouse.Gateway.Exchange
import Gatehouse.Gateway.Launch
import Gatehouse.Persistence.Watch

/-! # The application

The gateway from its start to its shutdown. Between requests time passes and the tables change;
in the background a periodic run may persist. Its events are no part of any request, but stand
between them in the order of time. -/

namespace Gatehouse

/-- A deployment of the gateway, and what it is deployed on. -/
structure Application where
  settings : Settings
  routes : List Route
  reckoning : Reckoning
  /-- The plan that a database makes for a statement. -/
  plan : Database → String → List (List String)
  /-- What the wall clock shows at a time of the event loop. -/
  wallClock : Rat → Reading
  /-- What the status probe reads at a time of the event loop. -/
  processClock : Rat → Except Failure ProcessClock
  marker : Marker
  /-- The jobs of the background run, one after the other. -/
  jobs : Option (Nat → Script)
  /-- When it starts, on the clock of the event loop. -/
  start : Rat

/-- Where an application stands. -/
structure Standing where
  database : Database
  faults : Question → Option Failure
  /-- The application beside its background run. -/
  watcher : Watcher

namespace Standing

/-- The present moment. -/
def now (st : Standing) : Rat := st.watcher.now

/-- Nothing that is due by now is still to come. -/
def settled (st : Standing) : Standing := { st with watcher := st.watcher.settle }

end Standing

namespace Application

/-! ### The background -/

/-- The background run, if there is one that gets anywhere. -/
def schedule? (app : Application) : Option Schedule :=
  match app.jobs, app.settings.persistSeconds.toRat? with
  | some job, some interval =>
    if 0 < interval then
      some ⟨app.reckoning, interval, job, fun _ t => (app.wallClock t).map Timestamp.ofUtc⟩
    else none
  | _, _ => none

/-- The turn in which the background run begins. -/
def origin (app : Application) : Waking := .first app.start

/-- What the background run does if it is cancelled now, with so many cycles after that. -/
def history (app : Application) (st : Standing) (more : Nat) : List Occurrence :=
  match app.schedule? with
  | none => []
  | some s => st.watcher.history s app.origin more

/-- What the background run has done by now. -/
def past (app : Application) (st : Standing) : List Occurrence :=
  match app.schedule? with
  | none => []
  | some s => st.watcher.past s app.origin

/-- Events of the background between two standings. -/
def between (app : Application) (earlier later : Standing) : List Event :=
  ((app.past later).drop (app.past earlier).length).filterMap Occurrence.event?

/-! ### Start and shutdown -/

/-- The event of a start. -/
def startupEvent (s : Settings) : Event :=
  ⟨.info, .application, "startup", [("env", .text s.deployment.name)]⟩

/-- The event of a shutdown. -/
def shutdownEvent : Event := ⟨.info, .application, "shutdown", []⟩

/-- Outside production the tables are created if they are not there. -/
def startingTables (s : Settings) (db : Database) : Database :=
  if s.prod then db else db.createTables

/-- Where an application stands when it has started. -/
def begin (app : Application) (db : Database) : Standing :=
  ⟨startingTables app.settings db, fun _ => none, .awake (.last app.start)⟩

/-- The events of a shutdown. The background run is cancelled first, and waited for; if it has
failed in another way, or fails so now, the shutdown fails. -/
def shutdown (app : Application) (st : Standing) (more : Nat) : Except Failure (List Event) :=
  let history := app.history st more
  let events := (history.drop (app.past st).length).filterMap Occurrence.event?
  match history.findSome? Occurrence.failure? with
  | some f => if f.isCancelled then .ok (events ++ [shutdownEvent]) else .error f
  | none => .ok (events ++ [shutdownEvent])

/-! ### Steps -/

/-- What a request finds now. -/
def circumstances (app : Application) (st : Standing) (ticket : Ticket) : Circumstances where
  reckoning := app.reckoning
  store := ⟨st.database, st.faults, app.plan st.database, none⟩
  clock := app.processClock st.now
  marker := app.marker.after (app.past st)
  time := st.now
  wall := app.wallClock st.now
  ticket := ticket

/-- Serves a request once everything due in the background has happened. -/
def request (app : Application) (st : Standing) (ticket : Ticket) (r : Request) :
    Exchange × Standing :=
  let st := st.settled
  let x := Exchange.serve app.settings app.routes (app.circumstances st ticket) r
  let watcher := if st.now < x.ended then st.watcher.wakeAt x.ended [] else st.watcher
  (x, { st with watcher := watcher.settle })

/-- All events in the log while a request is served. -/
def requestEvents (app : Application) (st : Standing) (x : Exchange × Standing) : List Event :=
  app.between st st.settled ++ x.1.opening ++ app.between st.settled x.2 ++ x.1.closing

/-- Time passes. -/
def advance (app : Application) (st : Standing) (seconds : Rat) : Standing :=
  match app.schedule? with
  | some s => { st with watcher := st.watcher.sleep s app.origin seconds }
  | none =>
    if seconds ≤ 0 then st
    else { st with watcher := st.watcher.wakeAt (Moment.after st.now seconds) [] }

end Application

end Gatehouse
