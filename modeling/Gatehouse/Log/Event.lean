import Gatehouse.Failure
import Gatehouse.Json.Basic

/-! # Log events

An event has a name, a level, a logger and fields of its own. Fields bound to the work in
progress are added where the event has no field of that name. -/

namespace Gatehouse

/-- How much an event matters. -/
inductive Level
  | debug
  | info
  | warning
  | error
  | critical
  deriving DecidableEq, Repr

/-- A level as the log tells it. -/
def Level.name : Level → String
  | debug => "debug"
  | info => "info"
  | warning => "warning"
  | error => "error"
  | critical => "critical"

/-- The part of the gateway that an event comes from. -/
inductive Source
  | lookup
  | filters
  | resolver
  | deadline
  | scheduler
  | application
  | requests
  | summary
  | health
  deriving DecidableEq, Repr

/-- The name of the logger of a module. -/
def Source.logger : Source → String
  | lookup => "tenant_gateway.auth.lookup"
  | filters => "tenant_gateway.auth.filters"
  | resolver => "tenant_gateway.tenancy.resolver"
  | deadline => "tenant_gateway.timeout"
  | scheduler => "tenant_gateway.scheduler"
  | application => "tenant_gateway.api.app"
  | requests => "tenant_gateway.api.middleware"
  | summary => "tenant_gateway.observability.middleware"
  | health => "tenant_gateway.api.routers.health"

/-- Named values, in the order in which they were put there. -/
abbrev Fields := List (String × Json)

/-- One line of the log, before it is formatted. -/
structure Event where
  level : Level
  source : Source
  name : String
  fields : Fields
  deriving BEq

namespace Event

/-- Whether an event has a field of that name. -/
def has (e : Event) (field : String) : Bool := e.fields.any fun f => f.1 == field

/-- The event with the bound fields that it does not have itself. -/
def bind (bound : Fields) (e : Event) : Event :=
  { e with fields := e.fields ++ bound.filter fun f => !e.has f.1 }

/-- The field that names the failure behind an event. -/
def failureField (f : Failure) : String × Json := ("exc", .text f.name)

end Event

end Gatehouse
