import Gatehouse.Deadline.Guard
import Gatehouse.Gateway.Dispatch
import Gatehouse.Status

/-! # Exchanges

A request and everything that comes of it: the response, the events in the log and the
explanations. The log context of a request is bound to each of its events. The status probe is
answered at once, every other request runs under its deadline. A failure that nobody answers, or a
request that the start of no response was delivered for, ends the exchange with a bare response and
no summary in the log. -/

namespace Gatehouse

/-- What is read off a clock that runs evenly, in seconds, when a request comes in and when its
response starts. -/
structure Stopwatch where
  started : Rat
  stopped : Rat

/-- The milliseconds in between, to two places. -/
def Stopwatch.millis (w : Stopwatch) : Binary64 :=
  let exact := Moment.nearest (Moment.span w.started w.stopped * 1000)
  Binary64.ofRat (mkRat (roundRat (exact * 100)) 100)

/-- What a request is given when it comes in. -/
structure Ticket where
  /-- The id of the request if it brings none. -/
  id : String
  stopwatch : Stopwatch

/-- What a request finds when it comes in. -/
structure Circumstances where
  /-- How the event loop reckons requests for cancellation. -/
  reckoning : Reckoning
  store : Store
  clock : Except Failure ProcessClock
  marker : Marker
  /-- On the clock of the event loop. -/
  time : Rat
  /-- On the wall clock. -/
  wall : Reading
  ticket : Ticket

/-- What comes of a request. -/
structure Exchange where
  response : Response
  /-- The failure that nobody answered. -/
  raised : Option Failure
  /-- Events before any time has passed. -/
  opening : List Event
  /-- Events at the end. -/
  closing : List Event
  explanations : List Explanation
  /-- When it ended, on the clock of the event loop. -/
  ended : Rat

namespace Exchange

/-- The id that a request brings, or else is given. -/
def requestIdOf (c : Circumstances) (r : Request) : String :=
  match r.header? "x-request-id" with
  | some id => if id.isEmpty then c.ticket.id else id
  | none => c.ticket.id

/-- The fields that every event of a request has. -/
def context (c : Circumstances) (r : Request) : Fields :=
  [("request_id", .text (requestIdOf c r)), ("path", .text r.addressPath),
    ("method", .text r.method), ("host", .text r.host)]

/-- The summary of a request that has got a response. -/
def finished (c : Circumstances) (status : Nat) : Event :=
  ⟨.info, .summary, "request_finished",
    [("status", .int status), ("duration_ms", .float c.ticket.stopwatch.millis)]⟩

/-! ### Under the deadline -/

/-- With no time left a question cannot be waited for: it is cancelled. -/
def hurried (budget : Budget) (start : Rat) (store : Store) : Store :=
  if budget.isOver start then { store with faults := fun _ => some (.cancelled "") } else store

/-- The caller takes each message in a turn of its own. -/
def caller : Run.Receiver := ⟨[], some 0⟩

/-- Hands a response to the caller. -/
def deliver (r : Response) : Work :=
  Work.andThen (Run.noteAndSend caller (.start (some (.int r.status)) r.headers))
    (Run.noteAndSend caller (.body r.body false))

/-- The answer of work that takes time: how much of it is left until the deadline. -/
def leftOver (deadline : Binary64) (now : Rat) : Except Failure Response :=
  match deadline.toRat? with
  | some t =>
    .ok (Response.json 200 (.object [("left", .float (Binary64.ofRat (t - now)))]))
  | none => .error .notCompliant

/-- Hands over an answer, if there is one. -/
def deliverResult (r : Except Failure Response) : Work :=
  match r with
  | .ok r => deliver r
  | .error f => Work.fail f

/-- Work that fails; what was cancelled had been waiting for an answer, which takes two turns. -/
def giveUp (f : Failure) : Work :=
  if f.isCancelled then
    Work.andThen (Run.suspend 0) (Work.andThen (Run.suspend 0) (Work.fail f))
  else Work.fail f

/-- Does what is left to be done on a request. -/
def perform (s : Settings) (deadline : Binary64) : Except Failure Reaction → Work
  | .error f => giveUp f
  | .ok ⟨_, .answer r⟩ => deliver r
  | .ok ⟨_, .work script⟩ => fun run =>
    match Run.exec .prompt script run with
    | (run, .ok ()) => deliverResult (leftOver deadline run.now) run
    | (run, .error f) => deliverResult (Dispatch.answerError s f) run

/-- The response that a caller has received. -/
def received (sent : List Sent) : Response :=
  sent.foldl (fun r s => match s.message with
    | .start (some (.int status)) headers =>
      { r with status := status.toNat, headers := headers.filter fun h => h.1 != "content-length" }
    | .body text _ => { r with body := r.body ++ text }
    | _ => r) ⟨0, [], ""⟩

/-- Whether the start of a response has been delivered. -/
def hasStarted (sent : List Sent) : Bool := sent.any fun s => s.message.status?.isSome

/-- The work on a request is over, but the start of no response has been delivered. -/
def noResponse : Failure := .run "No response returned."

/-- A request whose work was cancelled has no response. -/
def escaped (f : Failure) : Failure := if f.isCancelled then noResponse else f

/-! ### The whole exchange -/

/-- An exchange that took no time. -/
def immediate (c : Circumstances) (response : Response) (raised : Option Failure)
    (closing : List Event) : Exchange :=
  ⟨response, raised, [], closing, [], c.time⟩

/-- A response with the id of its request. -/
def withId (c : Circumstances) (r : Request) (response : Response) : Response :=
  response.withHeader "x-request-id" (requestIdOf c r)

/-- The warnings of the guard, as they are logged of a request. -/
def warnings (context site : Fields) (result : Guard.Result) : List Event :=
  result.events.map fun e => (e.bind site).bind context

/-- The summary of the request follows a late warning that no response was there in time, but
comes before one that the response was there already. -/
def closingEvents (context site : Fields) (result : Guard.Result) (summary : Event) : List Event :=
  let warnings := warnings context site result
  if result.run.status.truthy then summary.bind context :: warnings
  else warnings ++ [summary.bind context]

/-- The field of the site that a reaction has loaded. -/
def siteFields : Except Failure Reaction → Fields
  | .ok ⟨some site, _⟩ => Dispatch.siteField site
  | _ => []

/-- The context of a request before its site is loaded. -/
def requestContext (s : Settings) (c : Circumstances) (r : Request) : Context :=
  let budget := (Budgets.ofSettings s).choose r.path
  { Context.start { hurried budget c.time c.store with explain := Dispatch.explainText? s r } s
      (budget.deadline c.time) with rushed := budget.isOver c.time }

/-- What comes of a request whose guarded work has ended. -/
def ofResult (c : Circumstances) (r : Request) (context : Fields) (reaction : Traced Reaction)
    (result : Guard.Result) : Exchange :=
  let exchange (response : Response) (raised : Option Failure) (closing : List Event) : Exchange :=
    ⟨response, raised, reaction.events, closing, reaction.explanations, result.run.now⟩
  let site := siteFields reaction.outcome
  match result.outcome with
  | .ok () =>
    if hasStarted result.run.sent then
      let response := received result.run.sent
      exchange (withId c r response) none
        (closingEvents context site result (finished c response.status))
    else exchange .crash (some noResponse) (warnings context site result)
  | .error f => exchange .crash (some (escaped f)) []

/-- Serves a request under its deadline. -/
def underDeadline (s : Settings) (routes : List Route) (c : Circumstances) (r : Request)
    (context : Fields) : Exchange :=
  let ctx := requestContext s c r
  let reaction := (Dispatch.dispatch routes ctx c.wall r).bound context
  ofResult c r context reaction
    (Guard.guarded .prompt ((Budgets.ofSettings s).choose r.path)
      (perform s ctx.deadline reaction.outcome) (Run.begin c.reckoning (.last c.time) [] none))

/-- Serves a request. -/
def serve (s : Settings) (routes : List Route) (c : Circumstances) (r : Request) : Exchange :=
  let context := context c r
  if r.path == s.statusPath then
    match c.clock with
    | .ok clock =>
      let response := Status.respond clock (.json (.text s.version)) c.marker
      immediate c (withId c r response) none [(finished c response.status).bind context]
    | .error f => immediate c .crash (some f) []
  else underDeadline s routes c r context

end Exchange

end Gatehouse
