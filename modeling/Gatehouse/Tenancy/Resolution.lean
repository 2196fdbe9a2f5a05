import Gatehouse.Store.Query
import Gatehouse.Tenancy.Tenant

/-! # From host name to tenant

A host is resolved to the active site that it addresses. Outside production a deployment with
exactly one active site serves it under every host, even when looking for the host went wrong;
what went wrong counts only if there is no such site. -/

namespace Gatehouse.Tenant

/-- The active site, if there is exactly one. A query that fails leaves none, and a warning. -/
def only (st : Store) : Traced (Option SiteRow) := do
  match ← st.activeSites.attempt with
  | .ok [r] => return some r
  | .ok _ => return none
  | .error f =>
    if f.isDatabase then
      Traced.log .warning .resolver "single_site_fallback_failed" [Event.failureField f]
      return none
    else Traced.fail f

/-- The answer that looking for the host has given by itself. -/
def settle (host : String) : Except Failure (Option SiteRow) → Traced Tenant
  | .ok (some r) => .succeed (ofRow r)
  | .ok none => .fail (.gateway (.siteNotFound host))
  | .error f => do
    Traced.log .error .resolver "site_lookup_failed" [("host", .text host), Event.failureField f]
    Traced.fail (.gateway (.lookupFailed f.text))

/-- Outside production the failed query is rolled back before the next one. -/
def settleOrOnly (st : Store) (host : String) (found : Except Failure (Option SiteRow)) :
    Traced Tenant := do
  match found with
  | .error _ => Traced.perform .rolledBack
  | .ok _ => pure ()
  match ← only st with
  | some r => return ofRow r
  | none => settle host found

/-- The site that a host leads to. Outside of production the only active site stands in for a host
that leads to none. -/
def resolve (st : Store) (prod : Bool) (host domain : String) : Traced Tenant := do
  let found ← (st.siteByHost host domain).attempt
  match found with
  | .error f =>
    if f.isDatabase then if prod then settle host found else settleOrOnly st host found
    else Traced.fail f
  | .ok _ => if prod then settle host found else settleOrOnly st host found

end Gatehouse.Tenant
