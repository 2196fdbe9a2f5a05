import Gatehouse.Log.Event

/-! # Traced work

Work that ends with a value or a failure and leaves a trace on the way: events for the log, query
plans for the sink of explanations, sessions rolled back. The trace of a failed piece of work is
kept. -/

namespace Gatehouse

/-- A statement and its query plan: rows, each given by its columns. -/
structure Explanation where
  sql : String
  plan : List (List String)
  deriving DecidableEq, Repr

namespace Explanation

/-- A row of a plan as a line of its own. -/
def line (row : List String) : String := "\t" ++ String.intercalate " | " row ++ "\n"

/-- What an explanation writes to its sink: the statement, then its plan. -/
def text (e : Explanation) : String := e.sql ++ "\n" ++ String.join (e.plan.map line)

end Explanation

/-- What is left on the way. -/
inductive Effect
  | logged (e : Event)
  | explained (e : Explanation)
  | rolledBack
  deriving BEq

/-- How the work ends, and what it has left on the way. -/
structure Traced (α : Type) where
  outcome : Except Failure α
  effects : List Effect

namespace Traced

/-- A value at once. -/
def succeed (a : α) : Traced α := ⟨.ok a, []⟩

/-- A failure at once. -/
def fail (f : Failure) : Traced α := ⟨.error f, []⟩

/-- A result that leaves nothing. -/
def ofExcept (r : Except Failure α) : Traced α := ⟨r, []⟩

/-- Leaves something. -/
def perform (e : Effect) : Traced Unit := ⟨.ok (), [e]⟩

/-- One piece of work after another, which a failure of the first prevents. -/
def andThen (x : Traced α) (next : α → Traced β) : Traced β :=
  match x.outcome with
  | .error f => ⟨.error f, x.effects⟩
  | .ok a => ⟨(next a).outcome, x.effects ++ (next a).effects⟩

/-- Goes on after a failure, keeping what was done before it. -/
def rescue (x : Traced α) (handler : Failure → Traced α) : Traced α :=
  match x.outcome with
  | .error f => ⟨(handler f).outcome, x.effects ++ (handler f).effects⟩
  | .ok _ => x

instance : Monad Traced where
  pure := succeed
  bind := andThen

/-- Leaves an event. -/
def log (level : Level) (source : Source) (name : String) (fields : Fields) : Traced Unit :=
  perform (.logged ⟨level, source, name, fields⟩)

/-- The work with fields bound to every event of it. -/
def bound (fields : Fields) (x : Traced α) : Traced α :=
  ⟨x.outcome, x.effects.map fun
    | .logged e => .logged (e.bind fields)
    | effect => effect⟩

/-- The outcome as a value; the work itself cannot fail then. -/
def attempt (x : Traced α) : Traced (Except Failure α) := ⟨.ok x.outcome, x.effects⟩

/-- The events of the work. -/
def events (x : Traced α) : List Event :=
  x.effects.filterMap fun
    | .logged e => some e
    | _ => none

/-- What the work has explained. -/
def explanations (x : Traced α) : List Explanation :=
  x.effects.filterMap fun
    | .explained e => some e
    | _ => none

/-- How many sessions were rolled back. -/
def rollbacks (x : Traced α) : Nat := x.effects.count .rolledBack

end Traced

end Gatehouse
