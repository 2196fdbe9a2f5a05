import Gatehouse.Proofs.Auth.Chain
import Gatehouse.Proofs.Auth.Lookup
import Gatehouse.Proofs.Gateway.SiteStage

/-! # One answer to an error wherever it arises

An error of the gateway's may arise while the site of a request is looked for, while its session is
followed to a user, while its API token is looked up, or because a filter ends the request with it.
The first is answered where the site is loaded, the others by the route.

Everything behind the look-up of the site is an application that gets the context of the request
(`appContext?`), and an application whose outcome is the rendered error answers with it
(`response_hosted`). So it is left to see that a route comes to this outcome whichever of its parts
fails (`outcome_behind`). `gateway_errors_alike` puts the places together. -/

namespace Gatehouse

open Traced

/-! ### Look-ups of the caller -/

namespace Principal

variable {ctx : Context} {site : Tenant} {e : GatewayError}

theorem ofSession_of_gateway {token : String} {now : Reading} {claims : SessionClaims}
    (hsite : ctx.site = some site)
    (hdecode : SessionToken.decode (.ofSettings ctx.settings) token now = .ok claims)
    (hclaims : claims.siteId = site.id) (hf : ctx.store.faults .userOfSite = some (.gateway e)) :
    (ofSession ctx now token).outcome = .error (.gateway e) := by
  unfold ofSession
  rw [hsite]
  dsimp only
  rw [hdecode]
  dsimp only
  rw [if_pos hclaims]
  exact outcome_ofQuery_error (Store.ask_of_fault hf) rfl

theorem ofApiToken_of_gateway {token : String} (hsite : ctx.site = some site) (ht : token ≠ "")
    (hf : ctx.store.faults .userByToken = some (.gateway e)) :
    (ofApiToken ctx token).outcome = .error (.gateway e) := by
  have hquery : (ctx.store.userByToken token site.id).outcome = .error (.gateway e) :=
    Store.ask_of_fault hf
  unfold ofApiToken
  rw [if_neg (by simpa using ht), hsite]
  dsimp only
  rw [outcome_bind, outcome_ofQuery_error hquery rfl]
  rfl

end Principal

theorem Check.authenticate_of_gateway {ctx : Context} {site : Tenant} {token : String}
    {e : GatewayError} (hsite : ctx.site = some site) (hc : ctx.credential = some token)
    (ht : token ≠ "") (hf : ctx.store.faults .userByToken = some (.gateway e)) :
    (Check.authenticate ctx).outcome = .error (.gateway e) := by
  unfold Check.authenticate
  rw [outcome_bind, hc, Option.getD_some, Principal.ofApiToken_of_gateway hsite ht hf]
  rfl

/-- A request with a session is not identified if its user cannot be looked for. -/
theorem identify_of_gateway {ctx : Context} {r : Request} {now : Reading} {token : String}
    {e : GatewayError} (hu : ctx.user = none) (ht : ctx.sessionToken? r.cookies = some token)
    (h : (Principal.ofSession (ctx.withBearer r.bearer?) now token).outcome =
      .error (.gateway e)) :
    (ctx.identify now r.bearer? r.cookies).outcome = .error (.gateway e) := by
  have htoken : (ctx.withBearer r.bearer?).sessionToken? r.cookies = some token := by
    rw [Context.withBearer_eq]
    exact ht
  rw [identify_of_unknown hu]
  cases hfound : (ctx.withBearer r.bearer?).sessionToken? r.cookies with
  | none =>
    rw [hfound] at htoken
    cases htoken
  | some found =>
    obtain rfl : found = token := Option.some.inj (hfound.symm.trans htoken)
    dsimp only
    rw [outcome_bind, h]
    rfl

/-! ### Routes behind filters -/

namespace Dispatch

/-- An endpoint that stands behind filters. It is found out who is asking, the filters are asked,
and an error of the gateway's in either is answered. -/
def behind (filters : List Filter) (answer : Context → Response) (now : Reading) (r : Request)
    (ctx : Context) : Traced Act :=
  (do
    let known ← ctx.identify now r.bearer? r.cookies
    let passed ← Filter.chain filters known
    return Act.answer (answer passed)).rescue fun f =>
      Traced.ofExcept ((answerError ctx.settings f).map .answer)

theorem route_page {routes : List Route} {r : Request} {checks : List Check}
    (h : Route.find routes r.method r.path = .found (.page checks)) (ctx : Context)
    (now : Reading) :
    route routes ctx now r =
      behind (checks.map Check.filter) (fun ctx => Response.json 200 (Page.summary ctx)) now r
        ctx := by
  unfold route
  rw [h]
  simp only [behind, act, Page.respond, Page.pass, bind_assoc, pure_bind]

theorem outcome_behind {filters : List Filter} {now : Reading} {r : Request} {ctx : Context}
    {e : GatewayError}
    (h : (ctx.identify now r.bearer? r.cookies >>= Filter.chain filters).outcome =
      .error (.gateway e)) (answer : Context → Response) :
    (behind filters answer now r ctx).outcome =
      (e.render ctx.settings.flashCookie).map .answer := by
  have hwork : (do
      let known ← ctx.identify now r.bearer? r.cookies
      let passed ← Filter.chain filters known
      return Act.answer (answer passed)).outcome = .error (.gateway e) := by
    rw [← bind_assoc, outcome_bind, h]
    rfl
  unfold behind
  rw [outcome_rescue_error hwork]
  rfl

/-- Hands a request to an application, with its site unless its path needs none. -/
def host (app : Context → Traced Act) (ctx : Context) (r : Request) : Traced Reaction :=
  if isExempt ctx.settings r.path then do
    let act ← app ctx
    return ⟨none, act⟩
  else stage app ctx r

theorem dispatch_eq_host (routes : List Route) (ctx : Context) (now : Reading) (r : Request) :
    dispatch routes ctx now r = host (fun ctx => route routes ctx now r) ctx r := by
  unfold host
  split
  · rename_i he
    unfold dispatch
    rw [if_pos he]
  · rename_i he
    exact dispatch_eq_stage (eq_false_of_ne_true he) routes now

end Dispatch

namespace Exchange

variable {s : Settings} {c : Circumstances} {r : Request} {e : GatewayError}

/-- The exchange of a request that an application acts on. -/
def hosted (app : Context → Traced Act) (s : Settings) (c : Circumstances) (r : Request) :
    Exchange :=
  ofReaction s c r (Dispatch.host app (requestContext s c r) r)

/-- The context that an application gets, if it gets the request. -/
def appContext? (s : Settings) (c : Circumstances) (r : Request) : Option Context :=
  if Dispatch.isExempt s r.path then some (requestContext s c r)
  else (resolution s c r).outcome.toOption.map (siteContext s c r)

/-- The request comes to a filter behind these with such a context. -/
def Reaches (s : Settings) (c : Circumstances) (r : Request) (before : List Filter)
    (ctx : Context) : Prop :=
  ∃ start, appContext? s c r = some start ∧
    ((start.identify c.wall r.bearer? r.cookies) >>= Filter.chain before).outcome = .ok ctx

/-! ### The look-up of the site -/

theorem appContext?_of_tenant {site : Tenant} (he : Dispatch.isExempt s r.path = false)
    (h : (resolution s c r).outcome = .ok site) :
    appContext? s c r = some (siteContext s c r site) := by
  unfold appContext?
  rw [if_neg (ne_true_of_eq_false he), h]
  rfl

theorem resolution_of_fault (ht : ((Budgets.ofSettings s).choose r.path).isOver c.time = false)
    (hf : c.store.faults .siteByHost = some (.gateway e)) :
    (resolution s c r).outcome = .error (.gateway e) := by
  have hlook : ((requestContext s c r).store.siteByHost r.host s.domain).outcome =
      .error (.gateway e) :=
    Store.ask_of_fault (by rw [faults_requestContext ht, hf])
  unfold resolution
  rw [Tenant.resolve_of_other s.prod hlook rfl]

theorem outcome_host_of_error (he : Dispatch.isExempt s r.path = false)
    (h : (resolution s c r).outcome = .error (.gateway e)) (app : Context → Traced Act) :
    (Dispatch.host app (requestContext s c r) r).outcome =
      (e.render s.flashCookie).map fun answer => ⟨none, .answer answer⟩ := by
  have hneeds : ¬Dispatch.isExempt (requestContext s c r).settings r.path = true :=
    ne_true_of_eq_false he
  unfold Dispatch.host
  rw [if_neg hneeds, stage_of_error h]
  show (_ >>= _ : Traced Reaction).outcome = _
  rw [outcome_bind]
  show ((e.render s.flashCookie).map _).bind _ = _
  cases e.render s.flashCookie <;> rfl

/-- Otherwise the outcome is that of the application. -/
theorem outcome_host {start : Context} (h : appContext? s c r = some start)
    (app : Context → Traced Act) :
    (Dispatch.host app (requestContext s c r) r).outcome =
      (app start).outcome.map fun act => ⟨start.site, act⟩ := by
  unfold appContext? at h
  unfold Dispatch.host
  split at h
  · rename_i he
    obtain rfl := Option.some.inj h
    have hexempt : Dispatch.isExempt (requestContext s c r).settings r.path = true := he
    rw [if_pos hexempt, outcome_bind]
    cases (app (requestContext s c r)).outcome <;> rfl
  · rename_i he
    obtain ⟨site, hsite, rfl⟩ := Option.map_eq_some_iff.1 h
    have hresolved : (resolution s c r).outcome = .ok site := by
      cases ho : (resolution s c r).outcome with
      | error f =>
        rw [ho] at hsite
        cases hsite
      | ok t =>
        rw [ho] at hsite
        exact congrArg _ (Option.some.inj hsite)
    have hneeds : ¬Dispatch.isExempt (requestContext s c r).settings r.path = true := he
    rw [if_neg hneeds, stage_of_tenant hresolved]
    show (_ >>= _ : Traced Reaction).outcome = _
    rw [outcome_bind]
    show (app (siteContext s c r site)).outcome.bind _ = _
    cases (app (siteContext s c r site)).outcome <;> rfl

theorem settings_of_appContext? {start : Context} (h : appContext? s c r = some start) :
    start.settings = s := by
  unfold appContext? at h
  split at h
  · obtain rfl := Option.some.inj h
    rfl
  · obtain ⟨site, -, rfl⟩ := Option.map_eq_some_iff.1 h
    rfl

/-! ### The answer -/

/-- The caller receives an error that the request has come to as it is rendered. -/
theorem response_hosted (ht : ((Budgets.ofSettings s).choose r.path).isOver c.time = false)
    {app : Context → Traced Act} {site : Option Tenant}
    (ho : (Dispatch.host app (requestContext s c r) r).outcome =
      (e.render s.flashCookie).map fun answer => ⟨site, .answer answer⟩) :
    (hosted app s c r).response = reply c r (e.render s.flashCookie) := by
  rw [hosted, ofReaction_eq]
  exact response_of_rendering ht ho (fun _ => GatewayError.lengthless_render)
    fun _ hf => (GatewayError.render_error hf).2

theorem response_behind (ht : ((Budgets.ofSettings s).choose r.path).isOver c.time = false)
    {start : Context} (h : appContext? s c r = some start) {filters : List Filter}
    (hf : (start.identify c.wall r.bearer? r.cookies >>= Filter.chain filters).outcome =
      .error (.gateway e)) (answer : Context → Response) :
    (hosted (Dispatch.behind filters answer c.wall r) s c r).response =
      reply c r (e.render s.flashCookie) := by
  have ho : (Dispatch.host (Dispatch.behind filters answer c.wall r) (requestContext s c r)
      r).outcome = (e.render s.flashCookie).map fun answer => ⟨start.site, .answer answer⟩ := by
    rw [outcome_host h, Dispatch.outcome_behind hf, settings_of_appContext? h]
    cases e.render s.flashCookie <;> rfl
  exact response_hosted ht ho

/-- A filter that the request comes to ends it. -/
theorem response_of_filter (ht : ((Budgets.ofSettings s).choose r.path).isOver c.time = false)
    {before : List Filter} {f : Filter} {ctx : Context} (h : Reaches s c r before ctx)
    (hf : (f ctx).outcome = .error (.gateway e)) (after : List Filter)
    (answer : Context → Response) :
    (hosted (Dispatch.behind (before ++ f :: after) answer c.wall r) s c r).response =
      reply c r (e.render s.flashCookie) := by
  obtain ⟨start, hstart, hbefore⟩ := h
  obtain ⟨known, hknown, hpassed⟩ := outcome_bind_ok.1 hbefore
  refine response_behind ht hstart ?_ answer
  rw [outcome_bind, hknown]
  show (Filter.chain (before ++ f :: after) known).outcome = _
  rw [outcome_chain_append, hpassed]
  show (Filter.chain (f :: after) ctx).outcome = _
  rw [outcome_chain_cons, hf]
  rfl

theorem credential_of_bearer {token : String} {ctx : Context} {bearer : Option String}
    (hb : bearer = some token) (ht : token ≠ "") :
    (ctx.withBearer bearer).credential = some token := by
  rw [Context.withBearer_eq, hb, Option.filter_some]
  simp [ht]

theorem Reaches.frame {site : Tenant} (he : Dispatch.isExempt s r.path = false)
    (h : (resolution s c r).outcome = .ok site) {before : List Check} {ctx : Context}
    (hr : Reaches s c r (before.map Check.filter) ctx) :
    ((siteContext s c r site).withBearer r.bearer?).SameButUser ctx := by
  obtain ⟨start, hstart, hbefore⟩ := hr
  obtain ⟨known, hknown, hpassed⟩ := outcome_bind_ok.1 hbefore
  obtain rfl := Option.some.inj (hstart.symm.trans (appContext?_of_tenant he h))
  exact (identify_frame hknown).trans (chain_frame hpassed)

/-! ### Main result -/

/-- One error in all the places where it may arise. -/
structure RenderedAlike (s : Settings) (c : Circumstances) (r : Request) (e : GatewayError) :
    Prop where
  /-- While the host is looked for. -/
  lookup : Dispatch.isExempt s r.path = false → c.store.faults .siteByHost = some (.gateway e) →
    ∀ app, (hosted app s c r).response = reply c r (e.render s.flashCookie)
  /-- While the user of a valid session is looked for, whatever the filters are. -/
  session : Dispatch.isExempt s r.path = false →
    ∀ site token claims, (resolution s c r).outcome = .ok site →
    Cookie.find? r.cookies s.sessionCookie = some token →
    SessionToken.decode (.ofSettings s) token c.wall = .ok claims → claims.siteId = site.id →
    c.store.faults .userOfSite = some (.gateway e) →
    ∀ filters answer, (hosted (Dispatch.behind filters answer c.wall r) s c r).response =
      reply c r (e.render s.flashCookie)
  /-- While an API token is looked up behind checks that let the request through. -/
  token : Dispatch.isExempt s r.path = false →
    ∀ site token (before : List Check) ctx, (resolution s c r).outcome = .ok site →
    r.bearer? = some token → token ≠ "" → c.store.faults .userByToken = some (.gateway e) →
    Reaches s c r (before.map Check.filter) ctx →
    ∀ after answer, (hosted (Dispatch.behind
      (before.map Check.filter ++ Check.keyAuth.filter :: after) answer c.wall r) s c r).response =
        reply c r (e.render s.flashCookie)
  /-- By a filter. -/
  filter : ∀ before f ctx, Reaches s c r before ctx → (f ctx).outcome = .error (.gateway e) →
    ∀ after answer,
      (hosted (Dispatch.behind (before ++ f :: after) answer c.wall r) s c r).response =
        reply c r (e.render s.flashCookie)
  /-- All of this is what the gateway does: its application are its routes, -/
  routed : r.path ≠ s.statusPath → ∀ routes,
    serve s routes c r = hosted (fun ctx => Dispatch.route routes ctx c.wall r) s c r
  /-- and pages stand behind their filters. -/
  paged : ∀ routes checks, Route.find routes r.method r.path = .found (.page checks) →
    (fun ctx => Dispatch.route routes ctx c.wall r) =
      Dispatch.behind (checks.map Check.filter)
        (fun ctx => Response.json 200 (Page.summary ctx)) c.wall r

/-- **An error is answered alike wherever it arises**: as it is rendered, or by a breakdown if that
fails. This holds for all settings, tables and requests, as long as the deadline is not due together
with the start of the request. -/
theorem gateway_errors_alike (s : Settings) (c : Circumstances) (r : Request) (e : GatewayError)
    (ht : ((Budgets.ofSettings s).choose r.path).isOver c.time = false) :
    RenderedAlike s c r e where
  lookup he hf app := response_hosted ht (outcome_host_of_error he (resolution_of_fault ht hf) app)
  session he site token claims hsite hcookie hdecode hclaims hf filters answer := by
    have htoken : (siteContext s c r site).sessionToken? r.cookies = some token := by
      refine sessionToken?_eq_some.2 ⟨hcookie, ?_⟩
      rintro rfl
      rw [decode_empty] at hdecode
      cases hdecode
    have huser : (Principal.ofSession ((siteContext s c r site).withBearer r.bearer?) c.wall
        token).outcome = .error (.gateway e) := by
      rw [Context.withBearer_eq]
      exact Principal.ofSession_of_gateway rfl hdecode hclaims
        ((congrFun (faults_requestContext ht) _).trans hf)
    refine response_behind ht (appContext?_of_tenant he hsite) ?_ answer
    rw [outcome_bind, identify_of_gateway rfl htoken huser]
    rfl
  token he site token before ctx hsite hbearer hne hf hr after answer := by
    have hcredential : ((siteContext s c r site).withBearer r.bearer?).credential = some token :=
      credential_of_bearer hbearer hne
    have hsited : ((siteContext s c r site).withBearer r.bearer?).site = some site := by
      rw [Context.withBearer_eq]
      rfl
    have hfault : ((siteContext s c r site).withBearer r.bearer?).store.faults .userByToken =
        some (.gateway e) := by
      rw [Context.withBearer_eq]
      exact (congrFun (faults_requestContext ht) _).trans hf
    refine response_of_filter ht hr ?_ after answer
    -- The checks before may have found out who is asking, which makes no difference here.
    obtain ⟨user, rfl⟩ := hr.frame he hsite
    exact Check.authenticate_of_gateway hsited hcredential hne hfault
  filter _ _ _ hr hf after answer := response_of_filter ht hr hf after answer
  routed hp routes := by
    have hdispatch := Dispatch.dispatch_eq_host routes (requestContext s c r) c.wall r
    rw [serve, if_neg (by simpa using hp)]
    unfold underDeadline
    dsimp only
    rw [hdispatch]
    rfl
  paged _ _ h := funext fun ctx => Dispatch.route_page h ctx c.wall

/-- In production the look-up of the host and that of an API token ask for a login. -/
theorem login_asked_alike :
    let sites : Sites := ⟨[⟨1, none, "a", some "a.org", false, false, .active⟩],
      by decide, by decide⟩
    let s : Settings := { Settings.initial with deployment := .prod }
    let login : GatewayError := .unauthenticated "/signin" "Not now"
    let c (q : Question) : Circumstances :=
      .sample ⟨⟨some sites, none⟩, fun q' => if q' = q then some (.gateway login) else none,
        fun _ => [], none⟩
    let r : Request := ⟨"server", "GET", "/api/v0/me", "",
      [("host", "a.org"), ("authorization", "Bearer key")], ""⟩
    (serve s Route.sample (c .siteByHost) r).response =
        reply (c .siteByHost) r (login.render s.flashCookie) ∧
      (serve s Route.sample (c .userByToken) r).response =
        reply (c .userByToken) r (login.render s.flashCookie) := by
  intro sites s login c r
  have hr : r.path ≠ s.statusPath := by decide
  have he : Dispatch.isExempt s r.path = false := by decide
  have hfound : Route.find Route.sample r.method r.path = .found (.page [.keyAuth]) :=
    find_of_hasPath (p := .me) (by decide +kernel)
  have hlook : RenderedAlike s (c .siteByHost) r login :=
    gateway_errors_alike s (c .siteByHost) r login (by decide +kernel)
  have htoken : RenderedAlike s (c .userByToken) r login :=
    gateway_errors_alike s (c .userByToken) r login (by decide +kernel)
  have hsite : (resolution s (c .userByToken) r).outcome =
      .ok ⟨1, "a", some "a.org", none, false, false⟩ := by decide +kernel
  constructor
  · rw [hlook.routed hr]
    exact hlook.lookup he rfl _
  · rw [htoken.routed hr, htoken.paged _ _ hfound]
    exact htoken.token he _ "key" [] _ hsite (by decide +kernel) (by decide) rfl
      ⟨_, appContext?_of_tenant he hsite, rfl⟩ [] _

/-- If the deadline is due together with the start of the request then an error is not answered as
it is rendered, but by the guard. -/
theorem error_overtaken_by_deadline :
    let sites : Sites := ⟨[⟨1, none, "a", some "a.org", false, false, .active⟩],
      by decide, by decide⟩
    let s : Settings :=
      { Settings.initial with deployment := .prod, defaultSeconds := .zero false }
    let refusal : GatewayError := .forbidden "no entry"
    let c : Circumstances :=
      .sample ⟨⟨some sites, none⟩,
        fun q => if q = .siteByHost then some (.gateway refusal) else none, fun _ => [], none⟩
    let r : Request := ⟨"server", "GET", "/settings", "", [("host", "a.org")], ""⟩
    (serve s Route.sample c r).response.status = 504 ∧
      (reply c r (refusal.render s.flashCookie)).status = 403 :=
  ⟨by decide +kernel, by decide +kernel⟩

end Exchange

end Gatehouse
