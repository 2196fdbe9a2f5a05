import Gatehouse.Log.Event
import Gatehouse.Number.Binary64
import Gatehouse.Script.Run
import Gatehouse.Settings.Basic
import Gatehouse.Text.Search

/-! # Deadlines

Every request runs under a deadline that its path chooses. If it passes, the work on the request
is cancelled; a request that has not been answered by then is answered by the guard. -/

namespace Gatehouse

/-- How long a request may take, as the log shows it: a whole number of seconds, any number of
seconds, or without end. -/
inductive Budget
  | unlimited
  | whole (n : Int)
  | seconds (x : Binary64)
  deriving DecidableEq, Repr

namespace Budget

/-- The seconds after which the deadline passes, if ever; one that lies infinitely far back has
passed at once. -/
def limit? : Budget → Option Rat
  | unlimited => none
  | whole n => some (Moment.nearest n)
  | seconds (.infinite true) => some 0
  | seconds x => x.toRat?

/-- Whether the deadline of work that starts now is due together with its start. -/
def isOver (b : Budget) (start : Rat) : Bool :=
  b.limit?.any fun t =>
    Moment.after start t ≤ start || Moment.after start t < Moment.soon start

/-- The deadline as the handler is told it; 0 stands for none. -/
def deadline (b : Budget) (start : Rat) : Binary64 :=
  match b with
  | unlimited => Binary64.zero false
  | whole n => Binary64.ofRat (start + Moment.nearest n)
  | seconds x =>
    match x.toRat? with
    | none => x
    | some t => Binary64.ofRat (start + t)

def toJson : Budget → Json
  | unlimited => .null
  | whole n => .int n
  | seconds x => .float x

end Budget

/-- The budgets by what a path is for. -/
structure Budgets where
  admin : Budget
  root : Budget
  default : Budget

namespace Budgets

def ofSettings (s : Settings) : Budgets :=
  ⟨.seconds s.adminSeconds, .seconds s.rootSeconds, .seconds s.defaultSeconds⟩

/-- Administration may take longer, and so may the front page. -/
def choose (b : Budgets) (path : String) : Budget :=
  if Text.beginsWith "/admin" path then b.admin else if path == "/" then b.root else b.default

end Budgets

namespace Guard

open Run

/-- What a guarded request came to. -/
structure Result where
  run : Run
  outcome : Outcome
  events : List Event

def timeoutText : String := GatewayError.defaultTimeoutDetail

/-- The start of the guard's own answer. -/
def answerStart : Message :=
  .start (some (.int 504))
    [("content-length", "16"), ("content-type", "text/plain; charset=utf-8")]

def answerBody : Message := .body timeoutText false

/-- The guard's own answer. -/
def answer (sink : Receiver) : Work :=
  Work.andThen (send sink answerStart) (send sink answerBody)

/-- A warning of the guard. -/
def event (name : String) (fields : Fields) : Event := ⟨.warning, .deadline, name, fields⟩

/-- What is left to do when the deadline has passed and the work is over. -/
def conclude (sink : Receiver) (budget : Budget) (r : Run) : Result :=
  if r.status.truthy then
    ⟨r, .ok (), [event "deadline_exceeded_after_response"
      [("budget_s", budget.toJson), ("status", r.status)]]⟩
  else
    let (r, out) := answer sink r
    ⟨r, out, [event "deadline_exceeded" [("budget_s", budget.toJson)]]⟩

/-- Whether a block has ended normally or by a timeout. -/
def isAnswerable : Outcome → Bool
  | .ok () => true
  | .error f => f.isTimeout

/-- Whether the deadline has passed when the guarded block is left in such a way. -/
def isOverdue (r : Run) (out : Outcome) : Bool := r.expired && isAnswerable (r.translated out)

/-- Work that failed in another way than by a timeout is not answered, whether or not the deadline
has passed. -/
def guarded (sink : Receiver) (budget : Budget) (work : Work) (r : Run) : Result :=
  let (r, out) := work (r.enter budget.limit?)
  if isOverdue r out then conclude sink budget r.left else ⟨r.left, r.translated out, []⟩

/-- Runs a script as the handler of a request. -/
def run (reckoning : Reckoning) (sink : Receiver) (budget : Budget) (start : Rat)
    (interrupt : Option Interrupt) (script : Script) : Result :=
  guarded sink budget (exec sink script) (Run.begin reckoning (.first start) [] interrupt)

end Guard

end Gatehouse
