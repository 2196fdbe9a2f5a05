import Gatehouse.Proofs.Gateway.OnSite
import Gatehouse.Proofs.Gateway.SessionCookie
import Gatehouse.Proofs.Http.Cookies

/-! # A page that only users are shown

A request for the page with a session is answered by who the session leads to: a user of the site is
shown the page (`AsksSettings.response_of_signedIn`), and without a user the request is led to the
sign-in path (`AsksSettings.ledToSignIn`). -/

namespace Gatehouse

open Traced

namespace Exchange

/-! ### The user of a session -/

section

variable {ctx : Context} {s : Settings} {users : Users} {site : Tenant} {now : Reading}
  {token : String}

/-- A token of the site leads to its user, and a token of another site to nobody. -/
theorem ofSession_of_claims (hs : ctx.settings = s) (hsite : ctx.site = some site)
    (hstore : ctx.store.Serves users) {claims : SessionClaims}
    (hd : SessionToken.decode (.ofSettings s) token now = .ok claims)
    (hu : fitsColumn claims.userId = true) (hfits : fitsColumn claims.siteId = true) :
    (Principal.ofSession ctx now token).outcome =
      .ok (if claims.siteId = site.id then (users.ofSite claims.userId site.id).map .ofRow
        else none) := by
  unfold Principal.ofSession
  rw [hsite, hs]
  dsimp only
  rw [hd]
  dsimp only
  split
  · rename_i hid
    exact outcome_ofQuery (hstore.userOfSite hu (hid ▸ hfits))
  · rfl

theorem ofSession_of_refused (hs : ctx.settings = s) (hsite : ctx.site = some site)
    {fault : TokenFault}
    (hd : SessionToken.decode (.ofSettings s) token now = SessionToken.refuse fault) :
    (Principal.ofSession ctx now token).outcome = .ok none := by
  unfold Principal.ofSession
  rw [hsite, hs]
  dsimp only
  rw [hd]
  rfl

end

/-! ### The page -/

/-- The answer that leads to the sign-in path, with a message. -/
def signInWith (s : Settings) (cookie : String) : Response :=
  ⟨303, [("location", Percent.encodeUrl s.signinPath), ("set-cookie", cookie)], ""⟩

/-- The request is led to the sign-in path. -/
def LedToSignIn (s : Settings) (c : Circumstances) (r : Request) (answer : Response) : Prop :=
  ∃ cookie, Cookie.setHeader s.flashCookie GatewayError.defaultFlash
      (some GatewayError.flashLifetime) = .ok cookie ∧
    answer = withId c r (signInWith s cookie)

/-- What the page shows to a user of the site. -/
def settingsPage (site : Tenant) (userId : Int) : Response :=
  Response.json 200 (.object [("site", .text site.code), ("user", .int userId)])

theorem find_settings (pages : String → String × String) (own : List Route) :
    Route.find (Route.standard pages ++ own) "GET" SitePage.settings.path =
      .found (.page SitePage.settings.checks) :=
  Route.find_append rfl own

theorem choose_settings (b : Budgets) : b.choose SitePage.settings.path = b.default := rfl

section

variable {s : Settings} {pages : String → String × String} {own : List Route}
variable {c : Circumstances} {r : Request} {site : Tenant} {token : String}
  {user : Option Principal}

/-- A request for the page, with a session that is followed to a user or to none. -/
structure AsksSettings (s : Settings) (c : Circumstances) (r : Request) (site : Tenant)
    (token : String) (user : Option Principal) : Prop where
  method : r.method = "GET"
  path : r.path = SitePage.settings.path
  tenant : tenant? s c r = some site
  cookie : Cookie.find? r.cookies s.sessionCookie = some token
  session : token ≠ ""
  user : (Principal.ofSession ((siteContext s c r site).withBearer r.bearer?) c.wall
    token).outcome = .ok user

namespace AsksSettings

variable (h : AsksSettings s c r site token user)

include h

theorem outcome_pass :
    (Page.pass SitePage.settings.checks (siteContext s c r site) c.wall r).outcome =
      let ctx := { (siteContext s c r site).withBearer r.bearer? with user }
      if ctx.isSignedIn then .ok ctx else .error (Check.signIn ctx) := by
  have htoken : ((siteContext s c r site).withBearer r.bearer?).sessionToken? r.cookies =
      some token := by
    rw [sessionToken?_withBearer]
    exact sessionToken?_eq_some.2 ⟨h.cookie, h.session⟩
  unfold Page.pass
  rw [outcome_bind, identify_of_unknown rfl, htoken]
  dsimp only
  rw [outcome_bind, h.user]
  show (Filter.chain [Check.filter .loggedIn] _).outcome = _
  rw [outcome_chain_cons]
  show ((Check.passIf _ _ _).outcome).bind _ = _
  unfold Check.passIf
  split
  · rfl
  · rfl

/-- A user is shown the page. -/
theorem response_of_signedIn {p : Principal} (hp : user = some p) (hpos : 0 < p.id) :
    (serve s (Route.standard pages ++ own) c r).response = withId c r (settingsPage site p.id) := by
  have hpass := h.outcome_pass
  dsimp only at hpass
  rw [if_pos (by rw [Context.isSignedIn, hp]; exact decide_eq_true hpos)] at hpass
  have hsummary : Page.summary { (siteContext s c r site).withBearer r.bearer? with user } =
      .object [("site", .text site.code), ("user", .int p.id)] := by
    rw [Context.withBearer_eq, hp]
    rfl
  have hact := act_page .settings (siteContext s c r site) c.wall r
  rw [hpass] at hact
  have hroute :
      (Dispatch.route (Route.standard pages ++ own) (siteContext s c r site) c.wall r).outcome =
      .ok (.answer (settingsPage site p.id)) := by
    unfold Dispatch.route settingsPage
    rw [h.method, h.path, find_settings, ← hsummary]
    exact outcome_rescue_ok hact _
  exact response_of_route h.tenant hroute

/-- Anybody else is led to the sign-in path. -/
theorem ledToSignIn (hflash : Cookie.isLegalName s.flashCookie = true) (hu : user = none) :
    LedToSignIn s c r (serve s (Route.standard pages ++ own) c r).response := by
  have hvalue : (Cookie.quote GatewayError.defaultFlash).toList.all Cookie.isNarrow = true := by
    decide +kernel
  have hattributes : (Cookie.attributes (some GatewayError.flashLifetime)).toList.all
      Cookie.isNarrow = true := by
    decide +kernel
  obtain ⟨cookie, hset⟩ := Cookie.setHeader_of_narrow hflash hvalue hattributes
  have hpass := h.outcome_pass
  dsimp only at hpass
  rw [if_neg (by rw [Context.isSignedIn, hu]; exact Bool.false_ne_true)] at hpass
  have hsettings : ((siteContext s c r site).withBearer r.bearer?).settings = s := by
    rw [Context.withBearer_eq]
    rfl
  have hact := act_page .settings (siteContext s c r site) c.wall r
  rw [hpass, Check.signIn, hsettings] at hact
  have hroute :
      (Dispatch.route (Route.standard pages ++ own) (siteContext s c r site) c.wall r).outcome =
      .ok (.answer (signInWith s cookie)) := by
    unfold Dispatch.route
    rw [h.method, h.path, find_settings]
    dsimp only
    rw [outcome_rescue_error hact]
    show ((GatewayError.unauthenticated s.signinPath GatewayError.defaultFlash).render
      s.flashCookie).map Act.answer = _
    unfold GatewayError.render
    dsimp only
    rw [hset]
    rfl
  exact ⟨cookie, hset, response_of_route h.tenant hroute⟩

end AsksSettings

end

end Exchange

end Gatehouse
