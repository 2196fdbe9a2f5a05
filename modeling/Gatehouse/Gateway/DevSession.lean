import Gatehouse.Context
import Gatehouse.Http.Cookie
import Gatehouse.Http.Request
import Gatehouse.Http.Response
import Gatehouse.Session.Decode
import Gatehouse.Validation.Number

/-! # Signing in during development

A user of the site gets a session cookie by naming its id in a JSON body. The body is read before
anything else is looked at; in production there is nobody to sign in. -/

namespace Gatehouse.DevSession

open Text

/-! ### The body -/

/-- What is wrong with a body. -/
inductive Refusal
  /-- A fault, which is reported with the value that it was found in. -/
  | faulty (f : FieldFault) (input : Json)
  /-- The body is JSON that is not to be read. -/
  | unreadable

/-- Whether a content type announces JSON. -/
def isJsonType (contentType : String) : Bool :=
  let kind := (strip (contentType.toList.takeWhile (· != ';'))).map Char.toLower
  match splitOn '/' kind with
  | [main, sub] =>
    String.ofList main == "application" &&
      (String.ofList sub == "json" || "+json".toList.isSuffixOf sub)
  | _ => false

/-- Every place is one in the body. -/
def bodyPlace : Place := .name "body"

/-- A fault at a place in the body. -/
def fault (rest : List Place) (kind : FaultKind) (input : Json) : Refusal :=
  .faulty ⟨bodyPlace :: rest, kind⟩ input

/-- The body as a document; one that is not announced as JSON is a text. -/
def document (r : Request) : Except Refusal Json :=
  if r.body.isEmpty then .error (fault [] .missing .null)
  else if !((r.header? "content-type").map isJsonType).getD false then .ok (.text r.body)
  else
    match Json.readDocument (utf8 r.body.toList) with
    | .ok v => .ok v
    | .error (.malformed flaw position) =>
      .error (fault [.index position] (.invalidJson flaw.message) (.object []))
    | .error _ => .error .unreadable

/-- The name of the id. -/
def userField : String := "user_id"

/-- The least id that can be named. -/
def leastId : Int := 1

/-- The id that a value means. -/
def checkId (v : Json) : Except FaultKind Int :=
  match Lenient.int v with
  | .ok n => if leastId ≤ n then .ok n else .error (.tooSmall leastId)
  | .error kind => .error kind

/-- The id that a document names. -/
def userIdOf (document : Json) : Except Refusal Int :=
  match document with
  | .object members =>
    match Json.lookup userField members with
    | none => .error (fault [.name userField] .missing document)
    | some v =>
      match checkId v with
      | .ok n => .ok n
      | .error kind => .error (fault [.name userField] kind v)
  | _ => .error (fault [] .notAnObject document)

/-- The id that a body names. -/
def readUserId (r : Request) : Except Refusal Int := do
  let v ← document r
  userIdOf v

/-- A step as the answer tells it. -/
def placeJson : Place → Json
  | .name s => .text s
  | .index n => .int n

/-- A fault as the answer tells it. -/
def faultJson (f : FieldFault) (input : Json) : Json :=
  let hints := f.kind.hints
  .object
    ([("type", .text f.kind.code), ("loc", .list (f.place.map placeJson)),
      ("msg", .text f.kind.message), ("input", input)] ++
      if hints.isEmpty then [] else [("ctx", .object hints)])

/-- The answer to a body that is refused. It fails if the value at fault cannot be sent back. -/
def Refusal.respond : Refusal → Except Failure Response
  | faulty f input =>
    if input.hasNonFinite then .error .notCompliant
    else if input.hasSurrogate then .error .unencodable
    else .ok (Response.json 422 (.object [("detail", .list [faultJson f input])]))
  | unreadable => .ok (Response.detail 400 "There was an error parsing the body")

/-! ### Signing in -/

/-- There is nobody to sign in. -/
def notFound : Response := Response.detail 404 "Not found"

/-- How long a session lasts. -/
def lifetime (s : Settings) : Duration := ⟨s.sessionMinutes * 60000000⟩

/-- The answer to a user that has been found, with the session cookie. -/
def welcome (s : Settings) (now : Reading) (userId siteId : Int) : Except Failure Response := do
  let token ← SessionToken.issue (.ofSettings s) ⟨userId, siteId⟩ now (lifetime s)
  let cookie ← Cookie.setHeader s.sessionCookie token none
  let body := Response.json 200 (.object [("user_id", .int userId), ("site_id", .int siteId)])
  return body.withHeader "set-cookie" cookie

/-- Signs in a user of the site. -/
def signIn (ctx : Context) (now : Reading) (userId : Int) : Traced Response :=
  match ctx.settings.prod, ctx.site with
  | false, some site => do
    match ← ctx.store.userOfSite userId site.id with
    | none => return notFound
    | some u => Traced.ofExcept (welcome ctx.settings now u.id site.id)
  | _, _ => .succeed notFound

/-- The answer to a request, whose body has to be waited for. -/
def respond (ctx : Context) (now : Reading) (r : Request) : Traced Response := do
  ctx.wait
  match readUserId r with
  | .error refusal => Traced.ofExcept refusal.respond
  | .ok userId => signIn ctx now userId

end Gatehouse.DevSession
