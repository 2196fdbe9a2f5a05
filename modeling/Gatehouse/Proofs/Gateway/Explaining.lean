import Gatehouse.Proofs.Gateway.Isolation
import Gatehouse.Proofs.Gateway.Selects
import Gatehouse.Proofs.Http.OneCookie

/-! # Explaining changes nothing

A request that asks for explanations is answered as one that does not: the responses are the same,
and so are the events in the log (`explaining_changes_nothing`). There are two steps to this. A
store that explains gives the same answers and the same failures as one that does not
(`dispatch_alike`, with plans left out of the traces). And nothing but the explaining itself looks
at the explain cookie, as long as that is not the session cookie at the same time
(`Request.SameBut.dispatch`). -/

namespace Gatehouse

open Traced

namespace Request.SameBut

variable {name : String} {r r' : Request}

/-! ### Steps that do not look at the cookie -/

theorem sessionToken? (h : SameBut name r r') {ctx : Context}
    (hn : ctx.settings.sessionCookie ≠ name) :
    ctx.sessionToken? r'.cookies = ctx.sessionToken? r.cookies := by
  rw [Context.sessionToken?, Context.sessionToken?, h.cookie hn]

theorem identify (h : SameBut name r r') {ctx : Context} (hn : ctx.settings.sessionCookie ≠ name)
    (now : Reading) :
    ctx.identify now r'.bearer? r'.cookies = ctx.identify now r.bearer? r.cookies := by
  have hb : (ctx.withBearer r.bearer?).settings.sessionCookie ≠ name := by
    rwa [Context.withBearer_eq]
  unfold Context.identify
  dsimp only
  rw [h.bearer?, h.sessionToken? hb]

theorem act (h : SameBut name r r') {ctx : Context} (hn : ctx.settings.sessionCookie ≠ name)
    (e : Endpoint) (now : Reading) : Dispatch.act e ctx now r' = Dispatch.act e ctx now r := by
  cases e with
  | live => rfl
  | ready => rfl
  | devSession => simp only [Dispatch.act, DevSession.respond, h.readUserId]
  | page checks => simp only [Dispatch.act, Page.respond, Page.pass, h.identify hn]
  | documentation => rfl
  | timed script => rfl

theorem route (h : SameBut name r r') {ctx : Context} (hn : ctx.settings.sessionCookie ≠ name)
    (routes : List Route) (now : Reading) :
    Dispatch.route routes ctx now r' = Dispatch.route routes ctx now r := by
  unfold Dispatch.route
  rw [h.method, h.path]
  cases Route.find routes r.method r.path with
  | found e =>
    dsimp only
    rw [h.act hn]
  | wrongMethod allowed => rfl
  | moved path =>
    dsimp only
    rw [h.locationAt]
  | unknown => rfl

theorem dispatch (h : SameBut name r r') {ctx : Context} (hn : ctx.settings.sessionCookie ≠ name)
    (routes : List Route) (now : Reading) :
    Dispatch.dispatch routes ctx now r' = Dispatch.dispatch routes ctx now r := by
  have honSite : ∀ site, Dispatch.onSite routes ctx site now r' =
      Dispatch.onSite routes ctx site now r := by
    intro site
    have hsite : ({ ctx with site := some site } : Context).settings.sessionCookie ≠ name := hn
    unfold Dispatch.onSite
    rw [h.route hsite]
  unfold Dispatch.dispatch
  rw [h.path, h.host, h.route hn]
  simp only [honSite]

end Request.SameBut

/-! ### The whole exchange -/

namespace Exchange

variable {s : Settings} {routes : List Route} {c : Circumstances} {r r' : Request} {name : String}

/-- An exchange but for what was explained. -/
def unexplained (x : Exchange) : Exchange := { x with explanations := [] }

theorem requestContext_sameBut (h : r.SameBut name r') :
    requestContext s c r' = { requestContext s c r with store := (requestContext s c r').store } ∧
      ∀ site,
        Store.SameFor false site (requestContext s c r).store (requestContext s c r').store := by
  unfold requestContext
  rw [h.path]
  exact ⟨rfl, fun _ => ⟨rfl, nofun, rfl, fun _ _ => rfl⟩⟩

/-- Reactions that end in the same way and leave the same events make the same exchange, but for
what is explained. -/
theorem ofResult_unexplained (h : r.SameBut name r') {context : Fields} {x y : Traced Reaction}
    {result : Guard.Result} (ho : x.outcome = y.outcome) (he : x.events = y.events) :
    (ofResult c r context x result).unexplained =
      (ofResult c r' context y result).unexplained := by
  unfold ofResult unexplained
  cases result.outcome with
  | ok _ =>
    dsimp only
    rw [ho, he, withId, withId, h.requestIdOf]
    split
    · rfl
    · rfl
  | error f =>
    dsimp only
    rw [he]

theorem underDeadline_unexplained (hn : s.sessionCookie ≠ name) (h : r.SameBut name r')
    (context : Fields) :
    (underDeadline s routes c r context).unexplained =
      (underDeadline s routes c r' context).unexplained := by
  obtain ⟨hctx, hstore⟩ := requestContext_sameBut (s := s) (c := c) h
  have halike : Alike false Eq (Dispatch.dispatch routes (requestContext s c r) c.wall r)
      (Dispatch.dispatch routes (requestContext s c r') c.wall r') := by
    have hrequest : Dispatch.dispatch routes (requestContext s c r') c.wall r' =
        Dispatch.dispatch routes (requestContext s c r') c.wall r := h.dispatch hn routes c.wall
    rw [hrequest]
    exact dispatch_alike rfl hctx (hstore _) routes c.wall
  have hreaction := halike.bound context
  have hdeadline : (requestContext s c r').deadline = (requestContext s c r).deadline := by
    rw [hctx]
  unfold underDeadline
  dsimp only
  rw [h.path, hdeadline, ← hreaction.outcome]
  exact ofResult_unexplained h hreaction.outcome hreaction.events

/-- **Explaining changes nothing.** Two requests that are the same but for the explain cookie, which
one of them may have with any text and the other not, receive the same response and leave the same
events, whatever the tables are, however questions fail, and whenever the exchange takes place. A
failure in the log is its class; the text of one, which names the statement that was tried, is no
part of an event. In production nothing is explained at all. -/
theorem explaining_changes_nothing (s : Settings) (routes : List Route) (c : Circumstances)
    (r r' : Request) (hn : s.sessionCookie ≠ s.explainCookie)
    (h : r.SameBut s.explainCookie r') :
    (serve s routes c r).unexplained = (serve s routes c r').unexplained ∧
      (s.prod = true → (serve s routes c r).explanations = []) := by
  constructor
  · unfold serve
    rw [h.path, h.context]
    by_cases hp : (r.path == s.statusPath) = true
    · simp only [if_pos hp, withId, h.requestIdOf]
    · rw [if_neg hp, if_neg hp]
      exact underDeadline_unexplained hn h _
  · intro hprod
    rw [explanations_serve, due, hprod]

/-- The page of a public site, asked for with an explain cookie beside another one, and without
it. -/
theorem page_explained_or_not :
    let sites : Sites :=
      ⟨[⟨1, none, "a", some "a.org", true, false, .active⟩], by decide, by decide⟩
    let store : Store := ⟨⟨some sites, none⟩, fun _ => none, fun _ => [], none⟩
    let c : Circumstances := .sample store
    let plain : Request :=
      ⟨"server", "GET", "/", "", [("host", "a.org"), ("cookie", "a=b")], ""⟩
    let asking : Request :=
      { plain with headers := [("host", "a.org"), ("cookie", "a=b; debug-explain=cname =")] }
    asking.SameBut Settings.initial.explainCookie plain ∧
      Cookie.find? asking.cookies Settings.initial.explainCookie = some "cname =" ∧
      (serve .initial Route.sample c asking).unexplained =
        (serve .initial Route.sample c plain).unexplained := by
  intro sites store c plain asking
  have hsame : asking.SameBut Settings.initial.explainCookie plain :=
    ⟨rfl, by decide +kernel, by decide +kernel⟩
  have hcookie : Cookie.find? asking.cookies Settings.initial.explainCookie = some "cname =" := by
    decide +kernel
  exact ⟨hsame, hcookie,
    (explaining_changes_nothing .initial Route.sample c asking plain (by decide) hsame).1⟩

end Exchange

end Gatehouse
