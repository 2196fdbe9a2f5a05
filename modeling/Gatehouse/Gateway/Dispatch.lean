import Gatehouse.Gateway.DevSession
import Gatehouse.Gateway.Page
import Gatehouse.Gateway.Route
import Gatehouse.Http.Address
import Gatehouse.Http.ErrorResponse
import Gatehouse.Tenancy.Resolution

/-! # Dispatch

What becomes of a request under its deadline: the store is told to explain if the request asks
for it, the site is loaded unless the path is exempt, and the request goes to its endpoint. All
of this takes no time; work that does is left over as a script. Every gateway error is answered
in the same way, whether it arises while the site is loaded or at the endpoint. -/

namespace Gatehouse

/-- What is left to be done on a request. -/
inductive Act
  | answer (r : Response)
  | work (script : Script)

/-- What is left to be done, and the site that was loaded. -/
structure Reaction where
  site : Option Tenant
  act : Act

namespace Dispatch

/-- A page that has been written elsewhere. -/
def page (contentType text : String) : Response := ⟨200, [("content-type", contentType)], text⟩

/-- What an endpoint makes of a request. -/
def act (e : Endpoint) (ctx : Context) (now : Reading) (r : Request) : Traced Act :=
  match e with
  | .live => .succeed (.answer Probe.live)
  | .ready => do return .answer (← Probe.ready ctx)
  | .devSession => do return .answer (← DevSession.respond ctx now r)
  | .page checks => do return .answer (← Page.respond checks ctx now r)
  | .documentation contentType text => .succeed (.answer (page contentType text))
  | .timed script => .succeed (.work script)

/-- Answers a gateway error; anything else goes on. -/
def answerError (s : Settings) (f : Failure) : Except Failure Response :=
  match f with
  | .gateway e => e.render s.flashCookie
  | f => .error f

/-- Does what the routes make of a request. -/
def route (routes : List Route) (ctx : Context) (now : Reading) (r : Request) : Traced Act :=
  match Route.find routes r.method r.path with
  | .found e =>
    (act e ctx now r).rescue fun f =>
      Traced.ofExcept ((answerError ctx.settings f).map .answer)
  | .wrongMethod allowed =>
    .succeed (.answer ((Response.detail 405 "Method Not Allowed").withHeader "allow"
      (String.intercalate ", " allowed)))
  | .moved path => .succeed (.answer ⟨307, [("location", r.locationAt path)], ""⟩)
  | .unknown => .succeed (.answer (Response.detail 404 "Not Found"))

/-- Paths that need no site. -/
def isExempt (s : Settings) (path : String) : Bool :=
  s.exemptPaths.any fun start => Text.beginsWith start path

/-- The filter text of the explain cookie, which counts only outside production. -/
def explainText? (s : Settings) (r : Request) : Option String :=
  if s.prod then none else Cookie.find? r.cookies s.explainCookie

/-- The answer when no site could be loaded. -/
def withoutSite (s : Settings) (host : String) (f : Failure) : Traced Act :=
  match f with
  | .gateway e => Traced.ofExcept ((e.render s.flashCookie).map .answer)
  | f =>
    if f.isCancelled then .fail f
    else do
      Traced.log .error .requests "site_lookup_failed"
        [("host", .text host), Event.failureField f]
      Traced.ofExcept (((GatewayError.lookupFailed "").render s.flashCookie).map .answer)

/-- The field that an event gets of its site. -/
def siteField (t : Tenant) : Fields := [("site_id", .int t.id)]

/-- The request on its site. Every event from here on has the id of the site. -/
def onSite (routes : List Route) (ctx : Context) (site : Tenant) (now : Reading) (r : Request) :
    Traced Reaction :=
  (do
    let act ← route routes { ctx with site := some site } now r
    return ⟨some site, act⟩ : Traced Reaction).bound (siteField site)

/-- Loads the site of a request, unless its path is exempt, and does what the routes make of it. -/
def dispatch (routes : List Route) (ctx : Context) (now : Reading) (r : Request) :
    Traced Reaction := do
  if isExempt ctx.settings r.path then
    let act ← route routes ctx now r
    return ⟨none, act⟩
  else
    match ← (Tenant.resolve ctx.store ctx.settings.prod r.host ctx.settings.domain).attempt with
    | .ok site => onSite routes ctx site now r
    | .error f =>
      let act ← withoutSite ctx.settings r.host f
      return ⟨none, act⟩

end Dispatch

end Gatehouse
