import Gatehouse.Auth.Caller
import Gatehouse.Auth.Filter
import Gatehouse.Http.Request
import Gatehouse.Http.Response

/-! # Pages and probes

A page tells a caller that its checks let through which site it is on and who is asking. The two
probes tell whether the process is up and whether the sites can be looked at. -/

namespace Gatehouse

namespace Page

/-- What a page tells. -/
def summary (ctx : Context) : Json :=
  .object
    [("site", .ofText? (ctx.site.map Tenant.code)), ("user", .ofInt? (ctx.user.map Principal.id))]

/-- The context of a request that has passed the checks. -/
def pass (checks : List Check) (ctx : Context) (now : Reading) (r : Request) : Traced Context := do
  let ctx ← ctx.identify now r.bearer? r.cookies
  Filter.chain (checks.map Check.filter) ctx

/-- The answer of a page. -/
def respond (checks : List Check) (ctx : Context) (now : Reading) (r : Request) :
    Traced Response := do
  let ctx ← pass checks ctx now r
  return Response.json 200 (summary ctx)

end Page

namespace Probe

/-- The process is up. -/
def live : Response := Response.json 200 (.object [("status", .text "ok")])

/-- The sites can be looked at. -/
def available (sites : Nat) : Response :=
  Response.json 200 (.object [("status", .text "ready"), ("sites", .int sites)])

/-- They cannot. -/
def unavailable : Response := Response.json 503 (.object [("status", .text "unavailable")])

/-- The answer of the readiness probe. -/
def ready (ctx : Context) : Traced Response := do
  match ← ctx.store.activeCount.attempt with
  | .ok sites => return available sites
  | .error f =>
    if f.isDatabase then
      Traced.log .warning .health "readiness_check_failed" [Event.failureField f]
      return unavailable
    else Traced.fail f

end Probe

end Gatehouse
