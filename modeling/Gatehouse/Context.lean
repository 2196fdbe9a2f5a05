import Gatehouse.Auth.Principal
import Gatehouse.Settings.Basic
import Gatehouse.Store.Query
import Gatehouse.Tenancy.Tenant

/-! # The context of a request

Made for one request and dropped with it: the handle on the tables, the settings, the deadline,
and what has become known about the site and the caller. -/

namespace Gatehouse

/-- What is known about a request. -/
structure Context where
  store : Store
  settings : Settings
  /-- On the clock of the event loop. -/
  deadline : Binary64
  /-- Whether there is no time left to wait for anything. -/
  rushed : Bool
  site : Option Tenant
  user : Option Principal
  /-- The bearer credential that the request carries. -/
  credential : Option String

namespace Context

/-- The context of a request with time left, of whose site and caller nothing is known yet. -/
def start (store : Store) (settings : Settings) (deadline : Binary64) : Context :=
  ⟨store, settings, deadline, false, none, none, none⟩

/-- Waits for something that is there already; with no time left even that is cancelled. -/
def wait (ctx : Context) : Traced Unit :=
  if ctx.rushed then .fail (.cancelled "") else .succeed ()

/-- Whether the caller is a user that is signed in. -/
def isSignedIn (ctx : Context) : Bool := (ctx.user.map Principal.isAuthenticated).getD false

end Context

/-- What a request carries along under names: its context, once it has one, and other things. -/
structure Attachments where
  others : List String
  context : Option Context

namespace Attachments

/-- The name of the context. -/
def contextName : String := "ctx"

/-- A later context takes the place of an earlier one. -/
def attach (a : Attachments) (ctx : Context) : Attachments := { a with context := some ctx }

/-- The context, which must be there. -/
def require (a : Attachments) : Except Failure Context :=
  match a.context with
  | some ctx => .ok ctx
  | none => .error (.run "RequestContextMiddleware is not installed")

/-- The names of everything that is carried along. -/
def names (a : Attachments) : List String :=
  if a.context.isSome then
    contextName :: a.others.filter fun name => name != contextName
  else a.others

end Attachments

end Gatehouse
