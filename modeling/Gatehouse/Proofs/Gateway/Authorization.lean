import Gatehouse.Proofs.Auth.Chain
import Gatehouse.Proofs.Gateway.Delivery
import Gatehouse.Proofs.Gateway.Isolation
import Gatehouse.Proofs.Tenancy.Resolution

/-! # Who is let through to a page

The five pages of a site stand behind chains of filters. For each of them `SitePage.Opens` says
in terms of the tables and the credentials of the request when it opens; `authorization_exact` says
that the gateway answers a request for the page with 200 if and only if its host leads to a site and
the page opens on it. If the deadline is due together with the start of the request then this fails,
however open the page is (`public_page_cut_off`).

The proof follows the request: it is given a context with its site, the session is followed to a
user (`outcome_identify`), the filters are asked in order (`passes_cons`), and whatever ends the
request before has another status (`status_of_refused`). -/

namespace Gatehouse

open Traced

/-! ### Pages -/

/-- The pages of a site. -/
inductive SitePage
  | dashboard
  | settings
  | sites
  | admin
  | me
  deriving DecidableEq, Repr

namespace SitePage

def path : SitePage → String
  | dashboard => "/"
  | settings => "/settings"
  | sites => "/sites"
  | admin => "/admin"
  | me => "/api/v0/me"

def checks : SitePage → List Check
  | dashboard => [.loggedInOrPublic]
  | settings => [.loggedIn]
  | sites => [.loggedIn, .noSubSites]
  | admin => [.loggedIn, .adminOnly]
  | me => [.keyAuth]

def route (p : SitePage) : Route := ⟨.only p.path, ["GET"], .page p.checks⟩

/-- The session cookie is valid for the site, and vouches for a user of the site with a positive
id. -/
def SignedIn (s : Settings) (wall : Reading) (r : Request) (users : Users) (site : Tenant) : Prop :=
  ∃ token claims, Cookie.find? r.cookies s.sessionCookie = some token ∧
    SessionToken.decode (.ofSettings s) token wall = .ok claims ∧ claims.siteId = site.id ∧
    ∃ u ∈ users.rows, u.id = claims.userId ∧ u.siteId = site.id ∧ 0 < u.id

/-- The bearer credential is the API token of a user of the site. -/
def Keyed (r : Request) (users : Users) (site : Tenant) : Prop :=
  ∃ token, r.bearer? = some token ∧ token ≠ "" ∧
    ∃ v ∈ users.rows, v.apiToken = some token ∧ v.siteId = site.id

/-- The page opens on the site. -/
def Opens (p : SitePage) (s : Settings) (wall : Reading) (r : Request) (users : Users)
    (site : Tenant) : Prop :=
  match p with
  | dashboard => SignedIn s wall r users site ∨ site.isPublic
  | settings => SignedIn s wall r users site
  | sites => SignedIn s wall r users site ∧ (site.parent = none ∨ site.parent = some 0)
  | admin => SignedIn s wall r users site ∧ site.isAdmin
  | me => Keyed r users site

end SitePage

/-! ### Routing -/

theorem accepts_only {path : String} {text : List Char}
    (h : (PathPattern.only path).accepts text = true) :
    text = path.toList ∨ text = path.toList ++ ['\n'] := by
  simp only [PathPattern.only, PathPattern.accepts, Bool.and_eq_true, Bool.or_eq_true,
    List.isEmpty_iff, beq_iff_eq] at h
  obtain ⟨hstart, hrest⟩ := h
  obtain ⟨rest, rfl⟩ := List.isPrefixOf_iff_prefix.1 hstart
  rw [List.drop_left] at hrest
  rcases hrest with rfl | rfl
  · exact .inl (List.append_nil _)
  · exact .inr rfl

/-- Routes of a deployment's own come after the standard ones. -/
theorem Route.find_append {routes : List Route} {method path : String} {e : Endpoint}
    (h : Route.find routes method path = .found e) (own : List Route) :
    Route.find (routes ++ own) method path = .found e := by
  unfold Route.find at h ⊢
  dsimp only at h ⊢
  rw [List.filter_append, List.find?_append]
  cases hfound : (routes.filter fun r => r.hasPath path).find? fun r =>
      r.methods.contains method with
  | some r =>
    rw [hfound] at h
    exact h
  | none =>
    -- no other destination has an endpoint
    rw [hfound] at h
    dsimp only at h
    split at h
    · cases h
    · split at h <;> cases h

theorem find_of_hasPath {pages : String → String × String} {p : SitePage} {path : String}
    (h : p.route.hasPath path = true) :
    Route.find (Route.standard pages) "GET" path = .found (.page p.checks) := by
  have hpath : path = p.path ∨ path = String.ofList (p.path.toList ++ ['\n']) := by
    rcases accepts_only h with e | e
    · exact .inl (String.toList_inj.1 e)
    · exact .inr (by rw [← e, String.ofList_toList])
  rcases hpath with rfl | rfl <;> cases p <;> rfl

/-! ### The session -/

/-- A store whose tables of users can be asked. -/
structure Store.Serves (st : Store) (users : Users) : Prop where
  faults : st.faults = fun _ => none
  users : st.database.users = some users

namespace Store.Serves

variable {st : Store} {users : Users}

theorem usersTable (h : st.Serves users) : st.database.usersTable = .ok users := by
  rw [Database.usersTable, h.users]

theorem ask (h : st.Serves users) {q : Question} {sql : String} {bounds : List Int}
    (hb : bounds.all fitsColumn = true) (answer : Users → α) :
    (st.ask q sql st.database.usersTable bounds answer).outcome = .ok (answer users) :=
  Store.ask_answer (by rw [h.faults]) h.usersTable hb

theorem userOfSite (h : st.Serves users) {userId siteId : Int} (hu : fitsColumn userId = true)
    (hs : fitsColumn siteId = true) :
    (st.userOfSite userId siteId).outcome = .ok (users.ofSite userId siteId) :=
  h.ask (by simp [hu, hs]) _

theorem userByToken (h : st.Serves users) {siteId : Int} (token : String)
    (hs : fitsColumn siteId = true) :
    (st.userByToken token siteId).outcome = .ok (users.byToken token siteId) :=
  h.ask (by simp [hs]) _

end Store.Serves

/-- What is known of a request: its site, and tables that can be asked about it. -/
structure Context.On (ctx : Context) (s : Settings) (users : Users) (t : Tenant) : Prop where
  settings : ctx.settings = s
  site : ctx.site = some t
  store : ctx.store.Serves users
  fits : fitsColumn t.id = true

/-- The session cookie, if there is one, is a token of which either claims or a fault are known, and
the id of the user fits its column. -/
def Readable (s : Settings) (wall : Reading) (r : Request) : Prop :=
  ∀ token, Cookie.find? r.cookies s.sessionCookie = some token →
    (∃ claims, SessionToken.decode (.ofSettings s) token wall = .ok claims ∧
      fitsColumn claims.userId = true) ∨
    ∃ reason, SessionToken.decode (.ofSettings s) token wall = .error (.sessionToken reason)

section

variable {ctx : Context} {s : Settings} {users : Users} {site : Tenant} {wall : Reading}
  {r : Request}

/-- A session is followed to a user without fail; the user is signed in if and only if the claims
are. -/
theorem outcome_ofSession (h : ctx.On s users site) {token : String}
    (hr : (∃ claims, SessionToken.decode (.ofSettings s) token wall = .ok claims ∧
        fitsColumn claims.userId = true) ∨
      ∃ reason, SessionToken.decode (.ofSettings s) token wall = .error (.sessionToken reason)) :
    ∃ user, (Principal.ofSession ctx wall token).outcome = .ok user ∧
      ((user.map Principal.isAuthenticated).getD false = true ↔
        ∃ claims, SessionToken.decode (.ofSettings s) token wall = .ok claims ∧
          claims.siteId = site.id ∧
          ∃ u ∈ users.rows, u.id = claims.userId ∧ u.siteId = site.id ∧ 0 < u.id) := by
  unfold Principal.ofSession
  rw [h.site, h.settings]
  dsimp only
  rcases hr with ⟨claims, hd, hfits⟩ | ⟨reason, hd⟩
  · rw [hd]
    dsimp only
    by_cases hs : claims.siteId = site.id
    · rw [if_pos hs]
      refine ⟨_, outcome_ofQuery (h.store.userOfSite hfits h.fits), ?_⟩
      constructor
      · intro hp
        cases e : users.ofSite claims.userId site.id with
        | none =>
          rw [e] at hp
          cases hp
        | some u =>
          rw [e] at hp
          obtain ⟨hu, hid, hsite⟩ := Users.mem_of_ofSite e
          exact ⟨claims, rfl, hs, u, hu, hid, hsite, of_decide_eq_true hp⟩
      · rintro ⟨claims', hd', _, u, hu, hid, hsite, hpos⟩
        obtain rfl := Except.ok.inj hd'
        obtain ⟨v, e⟩ := Users.exists_ofSite_iff.2 ⟨u, hu, hid, hsite⟩
        obtain ⟨_, hv, _⟩ := Users.mem_of_ofSite e
        rw [e]
        exact decide_eq_true (by rw [Principal.ofRow, hv, ← hid]; exact hpos)
    · rw [if_neg hs]
      refine ⟨none, rfl, iff_of_false (by simp) ?_⟩
      rintro ⟨claims', hd', hs', _⟩
      obtain rfl := Except.ok.inj hd'
      exact hs hs'
  · rw [hd]
    exact ⟨none, rfl, by simp⟩

theorem credential_withBearer (hc : ctx.credential = none) (bearer : Option String) :
    (ctx.withBearer bearer).credential.getD "" = bearer.getD "" := by
  rw [Context.withBearer_eq, hc]
  cases bearer with
  | none => rfl
  | some token =>
    rw [Option.filter_some]
    by_cases he : token = ""
    · simp [he]
    · simp [he]

theorem Context.On.withBearer (h : ctx.On s users site) (bearer : Option String) :
    (ctx.withBearer bearer).On s users site := by
  rw [Context.withBearer_eq]
  exact ⟨h.settings, h.site, h.store, h.fits⟩

theorem decode_empty (cfg : SessionConfig) (wall : Reading) :
    SessionToken.decode cfg "" wall = SessionToken.refuse .segments := rfl

theorem sessionToken?_eq_some {cookies : List String} {token : String} :
    ctx.sessionToken? cookies = some token ↔
      Cookie.find? cookies ctx.settings.sessionCookie = some token ∧ token ≠ "" := by
  unfold Context.sessionToken?
  rw [Option.filter_eq_some_iff]
  simp

theorem SitePage.SignedIn.sessionToken (h : SitePage.SignedIn s wall r users site)
    (hs : ctx.settings = s) : ∃ token, ctx.sessionToken? r.cookies = some token := by
  obtain ⟨token, claims, hfind, hdecode, _⟩ := h
  refine ⟨token, sessionToken?_eq_some.2 ⟨by rw [hs, hfind], ?_⟩⟩
  rintro rfl
  rw [decode_empty] at hdecode
  cases hdecode

theorem identify_of_unknown (hu : ctx.user = none) (wall : Reading) (r : Request) :
    ctx.identify wall r.bearer? r.cookies =
      match (ctx.withBearer r.bearer?).sessionToken? r.cookies with
      | none => .succeed (ctx.withBearer r.bearer?)
      | some token =>
        Principal.ofSession (ctx.withBearer r.bearer?) wall token >>= fun user =>
          .succeed { ctx.withBearer r.bearer? with user } := by
  have huser : (ctx.withBearer r.bearer?).user = none := by rw [Context.withBearer_eq, hu]
  unfold Context.identify
  dsimp only
  rw [huser]
  cases (ctx.withBearer r.bearer?).sessionToken? r.cookies <;> rfl

/-- What the caller says about itself is put onto the context, and nothing else changes. -/
theorem outcome_identify (h : ctx.On s users site) (hu : ctx.user = none)
    (hc : ctx.credential = none) (hr : Readable s wall r) :
    ∃ found, (ctx.identify wall r.bearer? r.cookies).outcome = .ok found ∧
      found.On s users site ∧ found.credential.getD "" = r.bearer?.getD "" ∧
      (found.isSignedIn = true ↔ SitePage.SignedIn s wall r users site) := by
  have hb := h.withBearer r.bearer?
  have hcred := credential_withBearer hc r.bearer?
  have huser : (ctx.withBearer r.bearer?).user = none := by rw [Context.withBearer_eq, hu]
  rw [identify_of_unknown hu]
  generalize ctx.withBearer r.bearer? = known at hb hcred huser
  cases htoken : known.sessionToken? r.cookies with
  | none =>
    refine ⟨known, rfl, hb, hcred, iff_of_false ?_ fun hs => ?_⟩
    · rw [Context.isSignedIn, huser]
      simp
    · obtain ⟨token, e⟩ := hs.sessionToken hb.settings
      rw [htoken] at e
      cases e
  | some token =>
    obtain ⟨hfound, -⟩ := sessionToken?_eq_some.1 htoken
    rw [hb.settings] at hfound
    obtain ⟨user, ho, hsigned⟩ := outcome_ofSession hb (hr token hfound)
    refine ⟨{ known with user }, ?_, ⟨hb.settings, hb.site, hb.store, hb.fits⟩, hcred, ?_⟩
    · dsimp only
      rw [outcome_bind, ho]
      rfl
    · rw [Context.isSignedIn, hsigned]
      constructor
      · rintro ⟨claims, hd, hs, hu⟩
        exact ⟨token, claims, hfound, hd, hs, hu⟩
      · rintro ⟨token', claims, hfind, hd, hs, hu⟩
        obtain rfl : token = token' := Option.some.inj (hfound.symm.trans hfind)
        exact ⟨claims, hd, hs, hu⟩

end

/-! ### Filters -/

theorem passes_cons_of_passIf {check : Check} {rest : List Check} {ctx : Context} {ok : Bool}
    {rejection : Failure} (h : check.filter ctx = Check.passIf ok rejection ctx) :
    Passes (check :: rest) ctx ↔ ok = true ∧ Passes rest ctx := by
  rw [passes_cons, h]
  unfold Check.passIf
  cases ok with
  | true => simp [succeed]
  | false => simp [Traced.fail]

theorem passes_noSubSites {rest : List Check} {ctx : Context} {site : Tenant}
    (h : ctx.site = some site) :
    Passes (.noSubSites :: rest) ctx ↔
      (site.parent = none ∨ site.parent = some 0) ∧ Passes rest ctx := by
  have hchild : site.isChild = false ↔ site.parent = none ∨ site.parent = some 0 := by
    unfold Tenant.isChild
    cases site.parent with
    | none => simp
    | some parent => simp
  rw [passes_cons, ← hchild]
  show (∃ ctx', (Check.refuseChild ctx).outcome = _ ∧ _) ↔ _
  unfold Check.refuseChild
  rw [h]
  cases hb : site.isChild with
  | true => simp [hb, outcome_bind, Traced.log, Traced.perform, Traced.fail, Except.bind]
  | false => simp [hb, succeed]

theorem passes_keyAuth {ctx : Context} {s : Settings} {users : Users} {site : Tenant}
    {r : Request} (h : ctx.On s users site)
    (hc : ctx.credential.getD "" = r.bearer?.getD "") :
    Passes [.keyAuth] ctx ↔ SitePage.Keyed r users site := by
  have hpasses : Passes [.keyAuth] ctx ↔
      ∃ p, (Principal.ofApiToken ctx (r.bearer?.getD "")).outcome = .ok p := by
    rw [passes_cons]
    show (∃ ctx', (Check.authenticate ctx).outcome = _ ∧ _) ↔ _
    unfold Check.authenticate
    rw [hc, outcome_bind]
    cases (Principal.ofApiToken ctx (r.bearer?.getD "")).outcome with
    | error f => simp [Except.bind]
    | ok p => exact ⟨fun _ => ⟨p, rfl⟩, fun _ => ⟨_, rfl, passes_nil _⟩⟩
  rw [hpasses]
  unfold Principal.ofApiToken SitePage.Keyed
  cases r.bearer? with
  | none => simp [Traced.fail]
  | some token =>
    by_cases he : token = ""
    · simp [he, Traced.fail]
    · have hrow := outcome_ofQuery (h.store.userByToken token h.fits)
      simp only [Option.getD_some, String.isEmpty_iff, he, if_false, h.site, outcome_bind, hrow]
      constructor
      · rintro ⟨p, hp⟩
        cases e : users.byToken token site.id with
        | none =>
          rw [e] at hp
          cases hp
        | some v => exact ⟨token, rfl, he, Users.exists_byToken_iff.1 ⟨v, e⟩⟩
      · rintro ⟨token', htoken, _, hv⟩
        obtain rfl := Option.some.inj htoken
        obtain ⟨v, e⟩ := Users.exists_byToken_iff.2 hv
        rw [e]
        exact ⟨_, rfl⟩

section

variable {ctx : Context} {s : Settings} {users : Users} {site : Tenant} {wall : Reading}
  {r : Request}

/-- The filters of a page let a known caller through if and only if the page opens. -/
theorem passes_page (p : SitePage) (h : ctx.On s users site)
    (hc : ctx.credential.getD "" = r.bearer?.getD "")
    (hs : ctx.isSignedIn = true ↔ SitePage.SignedIn s wall r users site) :
    Passes p.checks ctx ↔ p.Opens s wall r users site := by
  have hadmin : Check.isAdmin ctx = site.isAdmin := by rw [Check.isAdmin, h.site]; rfl
  have hpublic : Check.isPublic ctx = site.isPublic := by rw [Check.isPublic, h.site]; rfl
  cases p with
  | dashboard =>
    show Passes [.loggedInOrPublic] ctx ↔ _ ∨ _
    rw [passes_cons_of_passIf rfl, hpublic, Bool.or_eq_true, hs]
    exact and_iff_left (passes_nil ctx)
  | settings =>
    show Passes [.loggedIn] ctx ↔ _
    rw [passes_cons_of_passIf rfl, hs]
    exact and_iff_left (passes_nil ctx)
  | sites =>
    show Passes [.loggedIn, .noSubSites] ctx ↔ _ ∧ _
    rw [passes_cons_of_passIf rfl, passes_noSubSites h.site, hs]
    exact and_congr_right fun _ => and_iff_left (passes_nil ctx)
  | admin =>
    show Passes [.loggedIn, .adminOnly] ctx ↔ _ ∧ _
    rw [passes_cons_of_passIf rfl, passes_cons_of_passIf rfl, hs, hadmin]
    exact and_congr_right fun _ => and_iff_left (passes_nil ctx)
  | me => exact passes_keyAuth h hc

theorem pass_page (p : SitePage) (h : ctx.On s users site) (hu : ctx.user = none)
    (hc : ctx.credential = none) (hr : Readable s wall r) :
    (∃ out, (Page.pass p.checks ctx wall r).outcome = .ok out) ↔ p.Opens s wall r users site := by
  obtain ⟨found, ho, hon, hcred, hsigned⟩ := outcome_identify h hu hc hr
  rw [← passes_page p hon hcred hsigned, Passes, Page.pass, outcome_bind, ho]
  rfl

/-- Without a site there is no user to be found. -/
theorem outcome_identify_without_site {found : Context} (hsite : ctx.site = none)
    (hu : ctx.user = none) (ho : (ctx.identify wall r.bearer? r.cookies).outcome = .ok found) :
    found.site = none ∧ found.user = none := by
  have hs : (ctx.withBearer r.bearer?).site = none := by rw [Context.withBearer_eq, hsite]
  have hn : (ctx.withBearer r.bearer?).user = none := by rw [Context.withBearer_eq, hu]
  rw [identify_of_unknown hu] at ho
  split at ho
  · obtain rfl := Except.ok.inj ho
    exact ⟨hs, hn⟩
  · obtain ⟨user, huser, ho⟩ := outcome_bind_ok.1 ho
    rw [Principal.ofSession, hs] at huser
    obtain rfl := Except.ok.inj huser
    obtain rfl := Except.ok.inj ho
    exact ⟨hs, rfl⟩

/-- No page lets a request without a site through. -/
theorem pass_without_site (p : SitePage) (hsite : ctx.site = none) (hu : ctx.user = none)
    (out : Context) : (Page.pass p.checks ctx wall r).outcome ≠ .ok out := by
  intro hp
  obtain ⟨found, ho, hp⟩ := outcome_bind_ok.1 hp
  obtain ⟨hfound, huser⟩ := outcome_identify_without_site hsite hu ho
  have hpasses : Passes p.checks found := ⟨out, hp⟩
  have hsigned : found.isSignedIn = false := by rw [Context.isSignedIn, huser]; rfl
  have hpublic : Check.isPublic found = false := by rw [Check.isPublic, hfound]; rfl
  have anonymous : ∀ rest, ¬Passes (.loggedIn :: rest) found := by
    intro rest h
    have := ((passes_cons_of_passIf rfl).1 h).1
    rw [hsigned] at this
    cases this
  cases p with
  | dashboard =>
    have := ((passes_cons_of_passIf rfl).1 hpasses).1
    rw [hsigned, hpublic] at this
    cases this
  | settings => exact anonymous _ hpasses
  | sites => exact anonymous _ hpasses
  | admin => exact anonymous _ hpasses
  | me =>
    obtain ⟨ctx', hk, _⟩ := passes_cons.1 hpasses
    obtain ⟨q, hq, _⟩ := outcome_bind_ok.1 hk
    obtain ⟨site, hs, _⟩ := siteId_of_ofApiToken hq
    rw [hfound] at hs
    cases hs

end

/-! ### Answers -/

/-- The request has been answered, but not with 200, or has failed. -/
def Refused (outcome : Except Failure Act) : Prop :=
  (∃ a, outcome = .ok (.answer a) ∧ a.status ≠ 200) ∨ ∃ f, outcome = .error f

theorem status_render {e : GatewayError} {flashCookie : String} {a : Response}
    (h : e.render flashCookie = .ok a) : a.status ≠ 200 := by
  have hstatus : a.status = e.status := by
    cases e with
    | unauthenticated location flash =>
      simp only [GatewayError.render] at h
      cases hc : Cookie.setHeader flashCookie flash (some GatewayError.flashLifetime) with
      | error f =>
        rw [hc] at h
        cases h
      | ok cookie =>
        rw [hc] at h
        obtain rfl := Except.ok.inj h
        rfl
    | _ =>
      obtain rfl := Except.ok.inj h
      rfl
  rw [hstatus]
  cases e <;> simp [GatewayError.status]

theorem refused_render (e : GatewayError) (flashCookie : String) :
    Refused ((e.render flashCookie).map .answer) := by
  cases h : e.render flashCookie with
  | ok a => exact .inl ⟨a, rfl, status_render h⟩
  | error f => exact .inr ⟨f, rfl⟩

theorem refused_answerError (s : Settings) (f : Failure) :
    Refused ((Dispatch.answerError s f).map .answer) := by
  unfold Dispatch.answerError
  cases f with
  | gateway e => exact refused_render e s.flashCookie
  | _ => exact .inr ⟨_, rfl⟩

theorem refused_withoutSite (s : Settings) (host : String) (f : Failure) :
    Refused (Dispatch.withoutSite s host f).outcome := by
  unfold Dispatch.withoutSite
  split
  · exact refused_render _ s.flashCookie
  · split
    · exact .inr ⟨_, rfl⟩
    · rw [outcome_bind]
      exact refused_render (.lookupFailed "") s.flashCookie

theorem act_page (p : SitePage) (ctx : Context) (wall : Reading) (r : Request) :
    (Dispatch.act (.page p.checks) ctx wall r).outcome =
      (Page.pass p.checks ctx wall r).outcome.map fun out =>
        .answer (Response.json 200 (Page.summary out)) := by
  simp only [Dispatch.act, Page.respond, outcome_bind]
  cases (Page.pass p.checks ctx wall r).outcome <;> rfl

section

variable {pages : String → String × String} {p : SitePage} {ctx : Context} {wall : Reading}
variable {r : Request}

theorem outcome_route_of_pass (hm : r.method = "GET") (hp : p.route.hasPath r.path = true)
    {out : Context} (h : (Page.pass p.checks ctx wall r).outcome = .ok out) :
    (Dispatch.route (Route.standard pages) ctx wall r).outcome =
      .ok (.answer (Response.json 200 (Page.summary out))) := by
  have hact := act_page p ctx wall r
  rw [h] at hact
  unfold Dispatch.route
  rw [hm, find_of_hasPath hp]
  exact outcome_rescue_ok hact _

theorem refused_route (hm : r.method = "GET") (hp : p.route.hasPath r.path = true) {f : Failure}
    (h : (Page.pass p.checks ctx wall r).outcome = .error f) :
    Refused (Dispatch.route (Route.standard pages) ctx wall r).outcome := by
  have hact := act_page p ctx wall r
  rw [h] at hact
  unfold Dispatch.route
  rw [hm, find_of_hasPath hp]
  dsimp only
  rw [outcome_rescue_error hact]
  exact refused_answerError ctx.settings f

end

/-! ### The whole exchange -/

theorem act_dispatch_of_tenant {ctx : Context} {r : Request} {site : Tenant}
    (h : Dispatch.tenant? ctx r = some site) (routes : List Route) (now : Reading) :
    (Dispatch.dispatch routes ctx now r).outcome.map Reaction.act =
      (Dispatch.route routes { ctx with site := some site } now r).outcome := by
  obtain ⟨hexempt, hsite⟩ := Dispatch.tenant?_eq_some.1 h
  unfold Dispatch.dispatch
  rw [if_neg (ne_true_of_eq_false hexempt), outcome_bind]
  simp only [Traced.attempt, hsite, Except.bind, Dispatch.onSite, Traced.bound, outcome_bind]
  cases (Dispatch.route routes { ctx with site := some site } now r).outcome <;> rfl

/-- A request without a site is routed as it is, or refused. -/
theorem act_dispatch_without_tenant {routes : List Route} {ctx : Context} {now : Reading}
    {r : Request} (h : Dispatch.tenant? ctx r = none) :
    (Dispatch.dispatch routes ctx now r).outcome.map Reaction.act =
        (Dispatch.route routes ctx now r).outcome ∨
      Refused ((Dispatch.dispatch routes ctx now r).outcome.map Reaction.act) := by
  unfold Dispatch.tenant? at h
  unfold Dispatch.dispatch
  split at h
  · rename_i hexempt
    left
    rw [if_pos hexempt, outcome_bind]
    cases (Dispatch.route routes ctx now r).outcome <;> rfl
  · rename_i hexempt
    right
    rw [if_neg hexempt, outcome_bind]
    cases e : (Tenant.resolve ctx.store ctx.settings.prod r.host ctx.settings.domain).outcome with
    | ok site =>
      rw [e] at h
      cases h
    | error f =>
      simp only [Traced.attempt, e, Except.bind, outcome_bind]
      have hr := refused_withoutSite ctx.settings r.host f
      cases ew : (Dispatch.withoutSite ctx.settings r.host f).outcome with
      | ok act =>
        rw [ew] at hr
        exact hr
      | error g => exact .inr ⟨g, rfl⟩

namespace Exchange

variable {s : Settings} {routes : List Route} {c : Circumstances} {r : Request}

theorem reaction_of_act {outcome : Except Failure Reaction} {act : Act}
    (h : outcome.map Reaction.act = .ok act) : ∃ site, outcome = .ok ⟨site, act⟩ := by
  cases outcome with
  | error f => cases h
  | ok reaction =>
    obtain ⟨site, act'⟩ := reaction
    obtain rfl : act' = act := Except.ok.inj h
    exact ⟨site, rfl⟩

/-- A refused request does not receive 200. -/
theorem status_of_refused {context : Fields}
    (hr : Refused ((Dispatch.dispatch routes (requestContext s c r) c.wall r).outcome.map
      Reaction.act)) :
    (underDeadline s routes c r context).response.status ≠ 200 := by
  rcases hr with ⟨a, ha, hstatus⟩ | ⟨f, hf⟩
  · obtain ⟨site, hreaction⟩ := reaction_of_act ha
    have hs : (underDeadline s routes c r context).response.status = _ ∨ _ :=
      status_of_answer_cases hreaction
    omega
  · cases e : (Dispatch.dispatch routes (requestContext s c r) c.wall r).outcome with
    | ok reaction =>
      rw [e] at hf
      cases hf
    | error g =>
      have hs : (underDeadline s routes c r context).response.status = _ ∨ _ := status_of_error e
      omega

theorem tenant_mem {ctx : Context} {sites : Sites} {site : Tenant}
    (ht : ctx.store.database.sites = some sites) (h : Dispatch.tenant? ctx r = some site) :
    ∃ row ∈ sites.rows, site = Tenant.ofRow row :=
  Tenant.resolve_mem ht (Dispatch.tenant?_eq_some.1 h).2

theorem resolve_of_isOver (h : ((Budgets.ofSettings s).choose r.path).isOver c.time = true) :
    (Tenant.resolve (requestContext s c r).store s.prod r.host s.domain).outcome =
      .error (.cancelled "") := by
  have hfaults : (requestContext s c r).store.faults = fun _ => some (.cancelled "") := by
    show (hurried _ c.time c.store).faults = _
    rw [hurried, if_pos h]
  exact Tenant.resolve_error (Store.ask_of_fault (by rw [hfaults])) rfl

theorem not_isOver_of_tenant {site : Tenant}
    (h : Dispatch.tenant? (requestContext s c r) r = some site) :
    ((Budgets.ofSettings s).choose r.path).isOver c.time = false := by
  cases hover : ((Budgets.ofSettings s).choose r.path).isOver c.time with
  | false => rfl
  | true =>
    have hcancelled := resolve_of_isOver hover
    exact absurd ((Dispatch.tenant?_eq_some.1 h).2.symm.trans hcancelled) nofun

theorem faults_requestContext
    (h : ((Budgets.ofSettings s).choose r.path).isOver c.time = false) :
    (requestContext s c r).store.faults = c.store.faults := by
  show (hurried _ c.time c.store).faults = _
  rw [hurried, h]
  rfl

theorem database_requestContext :
    (requestContext s c r).store.database = c.store.database := by
  show (hurried _ c.time c.store).database = _
  unfold hurried
  split <;> rfl

/-- The site that the host of a request leads to, unless its path needs none. -/
def hostSite? (s : Settings) (c : Circumstances) (r : Request) : Option Tenant :=
  if Dispatch.isExempt s r.path then none
  else (Tenant.resolve c.store s.prod r.host s.domain).outcome.toOption

/-- A request with time left has the tenant that its host leads to. -/
theorem tenant?_eq_hostSite? (hp : r.path ≠ s.statusPath)
    (ht : ((Budgets.ofSettings s).choose r.path).isOver c.time = false) :
    tenant? s c r = hostSite? s c r := by
  have hstore : Store.SameFor false none (requestContext s c r).store c.store :=
    ⟨faults_requestContext ht, nofun, by rw [database_requestContext], nofun⟩
  unfold tenant? Dispatch.tenant?
  rw [if_neg (by simpa using hp), (resolve_alike hstore _ _ _).outcome]
  rfl

/-- **Authorization is exact.** A `GET` request for a page of a site receives 200 if and only if its
host leads to a site and the page opens on it. This holds for all settings, clocks and deadlines
that are not due together with the start, and all tables (their ids being such as a column can
hold), as long as no query is made to fail and the session cookie, if there is one, can be read or
is refused as a token. -/
theorem authorization_exact (pages : String → String × String) (p : SitePage) (s : Settings)
    (c : Circumstances) (r : Request) (sites : Sites) (users : Users)
    (hdb : c.store.database = ⟨some sites, some users⟩)
    (hids : ∀ row ∈ sites.rows, fitsColumn row.id = true)
    (hfaults : c.store.faults = fun _ => none)
    (hmethod : r.method = "GET") (hpath : p.route.hasPath r.path = true)
    (hstatus : r.path ≠ s.statusPath)
    (hahead : ((Budgets.ofSettings s).choose r.path).isOver c.time = false)
    (hsession : Readable s c.wall r) :
    (serve s (Route.standard pages) c r).response.status = 200 ↔
      ∃ site, hostSite? s c r = some site ∧ p.Opens s c.wall r users site := by
  have hother : ¬(r.path == s.statusPath) = true := by simpa using hstatus
  have hdatabase : (requestContext s c r).store.database = ⟨some sites, some users⟩ :=
    database_requestContext.trans hdb
  rw [serve, if_neg hother, ← tenant?_eq_hostSite? hstatus hahead, tenant?, if_neg hother]
  cases ht : Dispatch.tenant? (requestContext s c r) r with
  | none =>
    refine iff_of_false (status_of_refused ?_) (by simp)
    rcases act_dispatch_without_tenant ht with e | hrefused
    · cases hp : (Page.pass p.checks (requestContext s c r) c.wall r).outcome with
      | ok out => exact absurd hp (pass_without_site p rfl rfl out)
      | error f =>
        rw [e]
        exact refused_route hmethod hpath hp
    · exact hrefused
  | some site =>
    have hserves : (requestContext s c r).store.Serves users :=
      ⟨(faults_requestContext hahead).trans hfaults, by rw [hdatabase]⟩
    obtain ⟨row, hrow, hsite⟩ := tenant_mem (by rw [hdatabase]) ht
    have hon : Context.On { requestContext s c r with site := some site } s users site :=
      ⟨rfl, rfl, hserves, by rw [hsite]; exact hids row hrow⟩
    have hpass := pass_page p hon rfl rfl hsession
    have hact := act_dispatch_of_tenant ht (Route.standard pages) c.wall
    have hopens : (∃ site', some site = some site' ∧ p.Opens s c.wall r users site') ↔
        p.Opens s c.wall r users site := by simp
    rw [hopens, ← hpass]
    generalize { requestContext s c r with site := some site } = ctx at hpass hact
    cases hp : (Page.pass p.checks ctx c.wall r).outcome with
    | ok out =>
      rw [outcome_route_of_pass hmethod hpath hp] at hact
      obtain ⟨loaded, hreaction⟩ := reaction_of_act hact
      exact iff_of_true (status_of_answer hahead hreaction) ⟨out, rfl⟩
    | error f =>
      refine iff_of_false (status_of_refused ?_) (by simp)
      rw [hact]
      exact refused_route hmethod hpath hp

/-- A token of the first site opens its API there, although the session cookie is no token. -/
theorem api_opens_by_token :
    let sites : Sites := ⟨[⟨1, none, "a", some "a.org", false, false, .active⟩,
      ⟨2, none, "b", some "b.org", false, false, .active⟩], by decide, by decide⟩
    let users : Users := ⟨[⟨1, 1, "u@a.org", some "t"⟩, ⟨2, 2, "v@b.org", some "x"⟩],
      by decide, by decide⟩
    let store : Store := ⟨⟨some sites, some users⟩, fun _ => none, fun _ => [], none⟩
    let c : Circumstances := .sample store
    let r : Request := ⟨"server", "GET", "/api/v0/me", "",
      [("host", "a.org"), ("authorization", "Bearer t"), ("cookie", "key=none")], ""⟩
    Readable .initial c.wall r ∧ SitePage.me.route.hasPath r.path = true ∧
      (serve .initial Route.sample c r).response.status = 200 := by
  intro sites users store c r
  have hcookie : Cookie.find? r.cookies (Settings.initial).sessionCookie = some "none" := by
    decide +kernel
  have hsession : Readable .initial c.wall r := by
    intro token htoken
    obtain rfl := Option.some.inj (hcookie.symm.trans htoken)
    exact .inr ⟨_, rfl⟩
  have hpath : SitePage.me.route.hasPath r.path = true := by decide +kernel
  have htenant : (hostSite? .initial c r).map Tenant.id = some 1 := by decide +kernel
  obtain ⟨site, hsite, hid⟩ := Option.map_eq_some_iff.1 htenant
  have hkeyed : SitePage.Keyed r users site :=
    ⟨"t", by decide +kernel, by decide, ⟨1, 1, "u@a.org", some "t"⟩, .head _, rfl, hid.symm⟩
  refine ⟨hsession, hpath, ?_⟩
  have hexact := authorization_exact (fun _ => ("text/html", "")) .me .initial c r sites users rfl
    (by decide) rfl rfl hpath (by decide +kernel) (by decide +kernel) hsession
  exact hexact.2 ⟨site, hsite, hkeyed⟩

/-- The front page of a public site does not receive 200 if the deadline, which this budget is too
small to move, is due together with the start. -/
theorem public_page_cut_off :
    let sites : Sites := ⟨[⟨1, none, "a", some "a.org", true, false, .active⟩],
      by decide, by decide⟩
    let users : Users := ⟨[], by decide, by decide⟩
    let s : Settings := { Settings.initial with rootSeconds := .ofDecimal false 1 (-14) }
    let c : Circumstances := .sample ⟨⟨some sites, some users⟩, fun _ => none, fun _ => [], none⟩
    let r : Request := ⟨"server", "GET", "/", "", [("host", "a.org")], ""⟩
    let site : Tenant := ⟨1, "a", some "a.org", none, true, false⟩
    (∃ t, s.rootSeconds.toRat? = some t ∧ 0 < t) ∧ SitePage.dashboard.route.hasPath r.path = true ∧
      r.path ≠ s.statusPath ∧ Cookie.find? r.cookies s.sessionCookie = none ∧
      hostSite? s c r = some site ∧ SitePage.dashboard.Opens s c.wall r users site ∧
      (serve s Route.sample c r).response.status = 504 :=
  ⟨⟨_, rfl, by decide +kernel⟩, by decide +kernel, by decide +kernel, by decide +kernel,
    by decide +kernel, .inr rfl, by decide +kernel⟩

end Exchange

end Gatehouse
