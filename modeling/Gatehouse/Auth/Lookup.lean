import Gatehouse.Context
import Gatehouse.Session.Decode

/-! # Finding the caller

A request carries up to two credentials: a session cookie and an API token. Both lead to a user of
the site that the request is for, and of no other. A session that is not valid leaves the request
anonymous; an API token that is not valid ends it. -/

namespace Gatehouse.Principal

/-- The user that a query found. A query that goes wrong is logged; callers do not learn why. -/
def ofQuery (query : Traced (Option UserRow)) : Traced (Option Principal) := do
  match ← query.attempt with
  | .ok row => return row.map ofRow
  | .error f =>
    if f.isDatabase then
      Traced.log .error .lookup "user_lookup_failed" [Event.failureField f]
      Traced.fail (.gateway (.lookupFailed f.text))
    else Traced.fail f

/-- A session that leads to nobody. -/
def rejectSession (fields : Fields) : Traced (Option Principal) := do
  Traced.log .info .lookup "session_rejected" fields
  return none

/-- The user of a session. -/
def ofSession (ctx : Context) (now : Reading) (token : String) : Traced (Option Principal) :=
  match ctx.site with
  | none => .succeed none
  | some site =>
    match SessionToken.decode (.ofSettings ctx.settings) token now with
    | .error (.sessionToken reason) => rejectSession [("reason", .text reason)]
    | .error f => .fail f
    | .ok claims =>
      if claims.siteId = site.id then ofQuery (ctx.store.userOfSite claims.userId site.id)
      else rejectSession [("reason", .text "site mismatch"), ("token_site", .int claims.siteId)]

/-- The error of an API token that leads to nobody. -/
def invalidToken : Failure := .gateway (.invalidToken "invalid API token")

/-- The user of an API token. -/
def ofApiToken (ctx : Context) (token : String) : Traced Principal := do
  if token.isEmpty then Traced.fail (.gateway (.invalidToken "missing API token"))
  else
    match ctx.site with
    | none => Traced.fail invalidToken
    | some site =>
      match ← ofQuery (ctx.store.userByToken token site.id) with
      | some p => return p
      | none => Traced.fail invalidToken

end Gatehouse.Principal
