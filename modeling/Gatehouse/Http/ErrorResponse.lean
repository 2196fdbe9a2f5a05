import Gatehouse.Http.Cookie
import Gatehouse.Http.Response

/-! # Answering an error

Every gateway error is answered alike, wherever it arose: one that asks for a login by a redirect
with a flash message that lives for half a minute, any other by its public detail. -/

namespace Gatehouse.GatewayError

/-- How many seconds a message waits to be shown. -/
def flashLifetime : Nat := 30

/-- The response to an error: a redirect with a message, or its detail as JSON. -/
def render (e : GatewayError) (flashCookie : String) : Except Failure Response :=
  match e with
  | .unauthenticated location flash => do
    let cookie ← Cookie.setHeader flashCookie flash (some flashLifetime)
    return ⟨e.status, [("location", Percent.encodeUrl location), ("set-cookie", cookie)], ""⟩
  | _ => .ok (Response.detail e.status e.publicDetail)

end Gatehouse.GatewayError
