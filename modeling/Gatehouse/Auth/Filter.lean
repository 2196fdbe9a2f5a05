import Gatehouse.Auth.Lookup

/-! # Filters

A filter lets a request through, with the context that it leaves, or ends it. A chain asks its
filters in order and stops at the first that ends the request; the filters after it are not
asked. -/

namespace Gatehouse

/-- Lets a request through, possibly with another context, or fails. -/
abbrev Filter := Context → Traced Context

/-- What a chain has come to. -/
structure Judgement where
  /-- As the filters that let the request through have left it. -/
  context : Context
  evaluated : Nat
  rejection : Option Failure

namespace Filter

/-- Asks the filters in order and tells how many were asked, and which failure was the last. -/
def judge : List Filter → Context → Traced Judgement
  | [], ctx => .succeed ⟨ctx, 0, none⟩
  | f :: rest, ctx => do
    match ← (f ctx).attempt with
    | .error failure => return ⟨ctx, 1, some failure⟩
    | .ok ctx =>
      let j ← judge rest ctx
      return { j with evaluated := j.evaluated + 1 }

/-- The chain as one filter. -/
def chain (filters : List Filter) : Filter := fun ctx => do
  let j ← judge filters ctx
  match j.rejection with
  | none => return j.context
  | some f => Traced.fail f

end Filter

/-! ### The filters of the gateway -/

/-- The filters of the gateway. -/
inductive Check
  | loggedIn
  | loggedInOrPublic
  | noSubSites
  | adminOnly
  | keyAuth
  deriving DecidableEq, Repr

namespace Check

/-- The error that leads to the sign-in page. -/
def signIn (ctx : Context) : Failure :=
  .gateway (.unauthenticated ctx.settings.signinPath GatewayError.defaultFlash)

/-- Lets the request through as it is, or ends it. -/
def passIf (ok : Bool) (rejection : Failure) (ctx : Context) : Traced Context :=
  if ok then .succeed ctx else .fail rejection

/-- Whether there is a site, and it is public. -/
def isPublic (ctx : Context) : Bool := (ctx.site.map Tenant.isPublic).getD false

/-- Whether there is a site, and it is one for administration. -/
def isAdmin (ctx : Context) : Bool := (ctx.site.map Tenant.isAdmin).getD false

/-- Refuses the sites that have a parent. -/
def refuseChild (ctx : Context) : Traced Context :=
  match ctx.site with
  | none => .succeed ctx
  | some site =>
    if site.isChild then do
      Traced.log .error .filters "no_sub_sites"
        [("site_id", .int site.id), ("parent", .ofInt? site.parent)]
      Traced.fail (.gateway (.forbidden "child sites can't access this"))
    else .succeed ctx

/-- Puts the user of the bearer credential onto the context. -/
def authenticate (ctx : Context) : Traced Context := do
  let user ← Principal.ofApiToken ctx (ctx.credential.getD "")
  return { ctx with user := some user }

/-- A site that is no administration site does not let on that there is one. -/
def filter : Check → Filter
  | loggedIn => fun ctx => passIf ctx.isSignedIn (signIn ctx) ctx
  | loggedInOrPublic => fun ctx => passIf (ctx.isSignedIn || isPublic ctx) (signIn ctx) ctx
  | noSubSites => refuseChild
  | adminOnly => fun ctx => passIf (isAdmin ctx) (.gateway (.notAdmin "")) ctx
  | keyAuth => authenticate

end Check

end Gatehouse
