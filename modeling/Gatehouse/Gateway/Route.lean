import Gatehouse.Auth.Filter
import Gatehouse.Gateway.PathPattern
import Gatehouse.Script.Basic

/-! # Routes

Which part of the gateway a request goes to. The first route with its path and method gets it. If
only the method is wrong, the answer tells the right one; if the path would fit with or without a
slash at its end, the answer is a redirect. -/

namespace Gatehouse

/-- What a route leads to. -/
inductive Endpoint
  | live
  | ready
  | devSession
  /-- A page of a site, behind checks. -/
  | page (checks : List Check)
  /-- What the gateway says about itself, which has been written elsewhere. -/
  | documentation (contentType text : String)
  /-- Work that takes time. -/
  | timed (script : Script)

/-- A path, the methods that are allowed there, and what they lead to. -/
structure Route where
  path : PathPattern
  methods : List String
  endpoint : Endpoint

/-- Where a request goes. -/
inductive Destination
  | found (e : Endpoint)
  | wrongMethod (allowed : List String)
  | moved (path : String)
  | unknown

namespace Route

/-- A route to a page of the documentation. -/
def ofPage (pages : String → String × String) (path : String) : Route :=
  ⟨.only path, ["GET", "HEAD"], .documentation (pages path).1 (pages path).2⟩

/-- The routes of every deployment. `pages` are the type and the text of each page of the
documentation. -/
def standard (pages : String → String × String) : List Route :=
  [ofPage pages "/openapi.json", ofPage pages "/docs", ofPage pages "/docs/oauth2-redirect",
    ofPage pages "/redoc",
    ⟨.only "/healthz", ["GET"], .live⟩,
    ⟨.only "/readyz", ["GET"], .ready⟩,
    ⟨.only "/v1/dev/session", ["POST"], .devSession⟩,
    ⟨.only "/", ["GET"], .page [.loggedInOrPublic]⟩,
    ⟨.only "/settings", ["GET"], .page [.loggedIn]⟩,
    ⟨.only "/sites", ["GET"], .page [.loggedIn, .noSubSites]⟩,
    ⟨.only "/admin", ["GET"], .page [.loggedIn, .adminOnly]⟩,
    ⟨.only "/api/v0/me", ["GET"], .page [.keyAuth]⟩]

/-- A route of a deployment's own. -/
def own (template : String) (script : Script) : Except Failure Route :=
  (PathPattern.ofTemplate template).map fun path => ⟨path, ["GET"], .timed script⟩

/-- Whether a path is one of the route. -/
def hasPath (r : Route) (path : String) : Bool := r.path.accepts path.toList

/-- The path without slashes at its end. -/
def dropSlashes (path : String) : String :=
  String.ofList (path.toList.reverse.dropWhile (· == '/')).reverse

/-- The path with a slash at its end if it has none, and without if it has. -/
def otherPath (path : String) : String :=
  if path.toList.getLast? == some '/' then dropSlashes path else path ++ "/"

/-- The other path, if a route has that. -/
def redirect? (routes : List Route) (path : String) : Option String :=
  if path != "/" && routes.any (fun r => r.hasPath (otherPath path)) then some (otherPath path)
  else none

/-- Where a request with that method and path goes. -/
def find (routes : List Route) (method path : String) : Destination :=
  let candidates := routes.filter fun r => r.hasPath path
  match candidates.find? fun r => r.methods.contains method with
  | some r => .found r.endpoint
  | none =>
    match candidates with
    | r :: _ => .wrongMethod r.methods
    | [] =>
      match redirect? routes path with
      | some path => .moved path
      | none => .unknown

end Route

end Gatehouse
