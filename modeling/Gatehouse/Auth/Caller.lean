import Gatehouse.Auth.Lookup
import Gatehouse.Http.Cookie

/-! # What a request says about its caller

The bearer credential goes onto the context as it is; the session cookie is followed to a user,
unless the user is known. -/

namespace Gatehouse.Context

/-- The context with a bearer credential, unless it is empty. -/
def withBearer (ctx : Context) (bearer : Option String) : Context :=
  match bearer with
  | none => ctx
  | some s => if s.isEmpty then ctx else { ctx with credential := some s }

/-- The session token among the cookies, unless it is empty. -/
def sessionToken? (ctx : Context) (cookies : List String) : Option String :=
  (Cookie.find? cookies ctx.settings.sessionCookie).filter fun token => !token.isEmpty

/-- The context with what the bearer credential and the `Cookie` headers say. -/
def identify (ctx : Context) (now : Reading) (bearer : Option String) (cookies : List String) :
    Traced Context := do
  let ctx := ctx.withBearer bearer
  match ctx.user, ctx.sessionToken? cookies with
  | none, some token =>
    let user ← Principal.ofSession ctx now token
    return { ctx with user }
  | _, _ => return ctx

end Gatehouse.Context
