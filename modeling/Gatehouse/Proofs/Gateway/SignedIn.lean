import Gatehouse.Proofs.Gateway.DevSession
import Gatehouse.Proofs.Gateway.SettingsPage

/-! # A session that comes back

The development sign-in sets a cookie, and a client sends it back with a request for a page that
only users are shown. Main statement: within the life of the token, such a request is shown the page
if it is for the site of the sign-in, and led to the sign-in path if it is for another one;
afterwards it is led there in any case (`session_comes_back`). The proof puts together what is known
of tokens, of cookies and of either request.

Requests whose deadline is due together with their start are left out (`session_is_cut_off`): a
budget that is lost in the time of the event loop, or in its resolution, leaves no time to look for
a site. -/

namespace Gatehouse

open Traced

theorem Table.eq_of_id {Row : Type} {id : Row → Int} {Clash : Row → Row → Prop}
    (t : Table Row id Clash) {r s : Row} (hr : r ∈ t.rows) (hs : s ∈ t.rows) (h : id r = id s) :
    r = s := by
  by_contra hne
  have hlt := List.pairwise_iff_getElem.1 t.ordered
  obtain ⟨i, hi, rfl⟩ := List.getElem_of_mem hr
  obtain ⟨j, hj, rfl⟩ := List.getElem_of_mem hs
  rcases Nat.lt_trichotomy i j with hij | rfl | hij
  · exact absurd h (hlt i j hi hj hij).ne
  · exact hne rfl
  · exact absurd h (hlt j i hj hi hij).ne'

theorem IntegerLiteral.fits_of_fitsColumn {n : Int} (h : fitsColumn n = true) : Fits n := by
  have hlimit : columnLimit = 2 ^ 63 := rfl
  simp only [fitsColumn, hlimit, Bool.and_eq_true, decide_eq_true_eq] at h
  exact SessionToken.fits_of_natAbs_le (by omega)

namespace Exchange

/-! ### There and back -/

section

variable {s : Settings} {pages : String → String × String} {own : List Route}
variable {c : Circumstances} {r : Request} {site : Tenant} {userId : Int} {a : SigningAlgorithm}

/-- A later request for the page of a site, over the same tables, that sends a cookie back: its host
leads to the site, and its deadline is not due together with its start. -/
structure SendsBack (s : Settings) (c : Circumstances) (cookie : String) (c' : Circumstances)
    (r' : Request) (other : Tenant) : Prop where
  database : c'.store.database = c.store.database
  faults : c'.store.faults = fun _ => none
  method : r'.method = "GET"
  path : r'.path = SitePage.settings.path
  host : (Tenant.resolve c'.store s.prod r'.host s.domain).outcome = .ok other
  ahead : (Budgets.ofSettings s).default.isOver c'.time = false
  cookie : Cookie.find? r'.cookies s.sessionCookie =
    Cookie.find? [Cookie.sentBack cookie] s.sessionCookie

namespace SendsBack

variable {c' : Circumstances} {r' : Request} {cookie : String} {other : Tenant}
  (h : SendsBack s c cookie c' r' other)

include h

theorem not_isOver : ((Budgets.ofSettings s).choose r'.path).isOver c'.time = false := by
  rw [h.path, choose_settings]
  exact h.ahead

theorem serves {users : Users} (husers : c.store.database.users = some users) :
    (siteContext s c' r' other).store.Serves users :=
  serves_siteContext h.not_isOver h.faults (h.database ▸ husers)

theorem context {users : Users} (husers : c.store.database.users = some users) :
    let ctx := (siteContext s c' r' other).withBearer r'.bearer?
    ctx.settings = s ∧ ctx.site = some other ∧ ctx.store.Serves users := by
  dsimp only
  rw [Context.withBearer_eq]
  exact ⟨rfl, rfl, h.serves husers⟩

/-- Tenants of the same tables are told apart by their ids. -/
theorem eq_of_id {sites : Sites} (hsites : c.store.database.sites = some sites)
    (hhost : (Tenant.resolve c.store s.prod r.host s.domain).outcome = .ok site)
    (hid : site.id = other.id) : site = other := by
  obtain ⟨row, hrow, rfl⟩ := Tenant.resolve_mem hsites hhost
  obtain ⟨row', hrow', rfl⟩ := Tenant.resolve_mem (h.database ▸ hsites) h.host
  rw [sites.eq_of_id hrow hrow' hid]

end SendsBack

namespace DefaultPaths

variable (hs : DefaultPaths s)

include hs

theorem session : DevSession.path ≠ s.statusPath ∧
    Dispatch.isExempt s DevSession.path = false := by
  rw [hs.status, Dispatch.isExempt, hs.exempt]
  decide

theorem settings : SitePage.settings.path ≠ s.statusPath ∧
    Dispatch.isExempt s SitePage.settings.path = false := by
  rw [hs.status, Dispatch.isExempt, hs.exempt]
  decide

theorem tenant_settings {c' : Circumstances} {r' : Request} {cookie : String} {other : Tenant}
    (h : SendsBack s c cookie c' r' other) : tenant? s c' r' = some other := by
  obtain ⟨hother, hexempt⟩ := hs.settings
  rw [← h.path] at hother hexempt
  rw [tenant?_eq hother hexempt h.not_isOver, h.host]
  rfl

theorem tenant_session (hpath : r.path = DevSession.path)
    (hhost : (Tenant.resolve c.store s.prod r.host s.domain).outcome = .ok site)
    (hover : ((Budgets.ofSettings s).choose r.path).isOver c.time = false) :
    tenant? s c r = some site := by
  obtain ⟨hother, hexempt⟩ := hs.session
  rw [← hpath] at hother hexempt
  rw [tenant?_eq hother hexempt hover, hhost]
  rfl

theorem session_of_isOver (routes : List Route) (hpath : r.path = DevSession.path)
    (hover : ((Budgets.ofSettings s).choose r.path).isOver c.time = true) :
    (serve s routes c r).response = withId c r timedOut := by
  obtain ⟨hother, hexempt⟩ := hs.session
  rw [← hpath] at hother hexempt
  exact response_of_isOver routes hother hexempt hover

theorem signsIn (hmethod : r.method = "POST") (hpath : r.path = DevSession.path)
    (huser : DevSession.readUserId r = .ok userId)
    (hhost : (Tenant.resolve c.store s.prod r.host s.domain).outcome = .ok site)
    (hok : (serve s (Route.standard pages ++ own) c r).response.status = 200) :
    SignsIn s c r site userId := by
  refine ⟨hmethod, hpath, huser, ?_⟩
  cases hover : ((Budgets.ofSettings s).choose r.path).isOver c.time with
  | false => exact hs.tenant_session hpath hhost hover
  | true =>
    rw [hs.session_of_isOver _ hpath hover] at hok
    cases hok

end DefaultPaths

/-! ### What a session leads to -/

namespace Welcomed

variable {answer : Response} {token cookie : String} {c' : Circumstances} {r' : Request}
  {other : Tenant} (w : Welcomed s c r site userId answer token cookie) (hs : DefaultPaths s)
  (ha : SigningAlgorithm.ofName? s.sessionAlgorithm = some a)
  (h : SendsBack s c cookie c' r' other)

include w hs ha h

theorem asks {user : Option Principal}
    (ho : (Principal.ofSession ((siteContext s c' r' other).withBearer r'.bearer?) c'.wall
      token).outcome = .ok user) : AsksSettings s c' r' other token user :=
  ⟨h.method, h.path, hs.tenant_settings h, h.cookie.trans (Cookie.find?_sentBack w.set),
    SessionToken.ne_empty_of_issue ha w.issued, ho⟩

/-- While the token is accepted, the user is shown the page of the site. -/
theorem response_of_accepted (hone : 1 ≤ userId) (hother : other = site)
    (hd : SessionToken.decode (.ofSettings s) token c'.wall = .ok ⟨userId, site.id⟩) :
    (serve s (Route.standard pages ++ own) c' r').response =
      withId c' r' (settingsPage site userId) := by
  subst hother
  obtain ⟨users, row, husers, hrow⟩ := w.user
  obtain ⟨hsettings, hsite, hstore⟩ := h.context husers
  have ho := ofSession_of_claims hsettings hsite hstore hd w.fitsUser w.fitsSite
  -- the row of the user, which the sign-in has found, is found again
  rw [if_pos rfl, hrow] at ho
  have hid : (Principal.ofRow row).id = userId := (Users.mem_of_ofSite hrow).2.1
  rw [← hid]
  exact (w.asks hs ha h ho).response_of_signedIn rfl (hid ▸ hone)

theorem ledToSignIn_of_accepted (hflash : Cookie.isLegalName s.flashCookie = true)
    (hids : site.id ≠ other.id)
    (hd : SessionToken.decode (.ofSettings s) token c'.wall = .ok ⟨userId, site.id⟩) :
    LedToSignIn s c' r' (serve s (Route.standard pages ++ own) c' r').response := by
  obtain ⟨users, row, husers, -⟩ := w.user
  obtain ⟨hsettings, hsite, hstore⟩ := h.context husers
  have ho := ofSession_of_claims hsettings hsite hstore hd w.fitsUser w.fitsSite
  rw [if_neg hids] at ho
  exact (w.asks hs ha h ho).ledToSignIn hflash rfl

theorem ledToSignIn_of_refused (hflash : Cookie.isLegalName s.flashCookie = true)
    {fault : TokenFault}
    (hd : SessionToken.decode (.ofSettings s) token c'.wall = SessionToken.refuse fault) :
    LedToSignIn s c' r' (serve s (Route.standard pages ++ own) c' r').response := by
  obtain ⟨users, row, husers, -⟩ := w.user
  obtain ⟨hsettings, hsite, -⟩ := h.context husers
  exact (w.asks hs ha h (ofSession_of_refused hsettings hsite hd)).ledToSignIn hflash rfl

end Welcomed

/-- The second in which a session expires that starts at a moment. -/
def sessionEnd (s : Settings) (start : Int) : Int :=
  SessionToken.secondOf (start + (DevSession.lifetime s).micros)

/-- **A session comes back.** Whoever has been signed in for a site is shown the page of that site
as long as the token lives, and led to the sign-in path on any other site, and afterwards on all of
them. -/
theorem session_comes_back (s : Settings) (pages : String → String × String) (own : List Route)
    (c : Circumstances) (r : Request) (sites : Sites) (site : Tenant) (userId : Int)
    {start : UtcTime}
    (ha : SigningAlgorithm.ofName? s.sessionAlgorithm = some a)
    (hflash : Cookie.isLegalName s.flashCookie = true) (hdefault : DefaultPaths s)
    (hsites : c.store.database.sites = some sites) (hmethod : r.method = "POST")
    (hpath : r.path = DevSession.path) (huser : DevSession.readUserId r = .ok userId)
    (hhost : (Tenant.resolve c.store s.prod r.host s.domain).outcome = .ok site)
    (hwall : c.wall = .ok start) (h₀ : 0 ≤ start.micros)
    (hend₀ : 0 ≤ start.micros + (DevSession.lifetime s).micros)
    (hend : start.micros + (DevSession.lifetime s).micros ≤ SessionToken.exactSeconds * 1000000)
    (hok : (serve s (Route.standard pages ++ own) c r).response.status = 200) :
    ∃ cookie,
      (serve s (Route.standard pages ++ own) c r).response =
        withId c r (DevSession.welcomeWith userId site.id cookie) ∧
      ∀ c' r' other, ∀ later : UtcTime, SendsBack s c cookie c' r' other → c'.wall = .ok later →
        (SessionToken.secondOf start.micros ≤ later.micros →
            later.micros < sessionEnd s start.micros →
          (other = site → (serve s (Route.standard pages ++ own) c' r').response =
            withId c' r' (settingsPage site userId)) ∧
          (other ≠ site →
            LedToSignIn s c' r' (serve s (Route.standard pages ++ own) c' r').response)) ∧
        (sessionEnd s start.micros ≤ later.micros →
          LedToSignIn s c' r' (serve s (Route.standard pages ++ own) c' r').response) := by
  have h := hdefault.signsIn hmethod hpath huser hhost hok
  obtain ⟨token, cookie, w⟩ := h.welcomed_of_ok hok
  refine ⟨cookie, w.answer, fun c' r' other later back hlater => ?_⟩
  have hissued := w.issued
  rw [hwall] at hissued
  have decode := fun hl₀ : 0 ≤ later.micros => SessionToken.decode_own ha hissued
    (IntegerLiteral.fits_of_fitsColumn w.fitsUser) (IntegerLiteral.fits_of_fitsColumn w.fitsSite)
    h₀ hend₀ hend hl₀
  rw [← hlater] at decode
  constructor
  · intro hbegun hrunning
    obtain ⟨haccept, -⟩ := decode ((SessionToken.secondOf_nonneg h₀).trans hbegun)
    have hd := haccept hbegun hrunning
    constructor
    · intro hother
      exact w.response_of_accepted hdefault ha back (DevSession.one_le_of_readUserId huser) hother
        hd
    · intro hother
      have hids : site.id ≠ other.id := fun hid => hother (back.eq_of_id hsites hhost hid).symm
      exact w.ledToSignIn_of_accepted hdefault ha back hflash hids hd
  · intro hover
    obtain ⟨-, hrefuse⟩ := decode ((SessionToken.secondOf_nonneg hend₀).trans hover)
    obtain ⟨fault, hd⟩ := hrefuse hover
    exact w.ledToSignIn_of_refused hdefault ha back hflash hd

end

/-! ### Two sites -/

def oneUser : Users := ⟨[⟨10, 1, "u@a.org", none⟩], by decide, by decide⟩

/-- Two sites, and the user of the first one. -/
def twoSites : Store :=
  let sites : Sites := ⟨[⟨1, none, "a", some "a.org", false, false, .active⟩,
    ⟨2, none, "b", some "b.org", false, false, .active⟩], by decide, by decide⟩
  ⟨⟨some sites, some oneUser⟩, fun _ => none, fun _ => [], none⟩

def firstSite : Tenant := ⟨1, "a", some "a.org", none, false, false⟩

def secondSite : Tenant := ⟨2, "b", some "b.org", none, false, false⟩

/-- A moment between two full seconds. -/
def beginning : UtcTime := ⟨1700000000600000, by decide +kernel⟩

/-- Moments on the clock of the event loop and on the wall clock. -/
def atTwoSites (time : Rat) (wall : UtcTime) : Circumstances :=
  { Circumstances.sample twoSites with time, wall := .ok wall }

/-- The settings of the start, with a budget of its own. -/
def withBudget (seconds : Binary64) : Settings :=
  { Settings.initial with defaultSeconds := seconds }

/-- The user is to be signed in for the first site. -/
def signingIn : Request :=
  ⟨"server", "POST", DevSession.path, "", [("host", "a.org"), ("content-type", "application/json")],
    "\x7b\"user_id\":10\x7d"⟩

/-- The page of a site is asked for, and a cookie is sent back. -/
def comingBack (host cookie : String) : Request :=
  ⟨"server", "GET", SitePage.settings.path, "",
    [("host", host), ("cookie", Cookie.sentBack cookie)], ""⟩

theorem resolve_firstSite :
    (Tenant.resolve twoSites false "a.org" "localhost").outcome = .ok firstSite :=
  rfl

theorem resolve_secondSite :
    (Tenant.resolve twoSites false "b.org" "localhost").outcome = .ok secondSite :=
  rfl

theorem readUserId_signingIn : DevSession.readUserId signingIn = .ok 10 := by
  have huser : (DevSession.readUserId signingIn).toOption = some 10 := by decide +kernel
  cases hread : DevSession.readUserId signingIn with
  | error refusal =>
    rw [hread] at huser
    cases huser
  | ok n =>
    rw [hread] at huser
    rw [Option.some.inj huser]

theorem threeSeconds_ahead :
    (Budget.seconds (Settings.wholeSeconds 3)).isOver 1000 = false := by
  decide +kernel

section

variable {seconds : Binary64} {time : Rat} {wall : UtcTime}

theorem default_withBudget (seconds : Binary64) : DefaultPaths (withBudget seconds) := ⟨rfl, rfl⟩

theorem sendsBack_comingBack {host cookie : String} {other : Tenant} {time' : Rat} {later : UtcTime}
    (ht : (Budget.seconds seconds).isOver time' = false)
    (hhost : (Tenant.resolve twoSites false host "localhost").outcome = .ok other) :
    SendsBack (withBudget seconds) (atTwoSites time wall) cookie (atTwoSites time' later)
      (comingBack host cookie) other :=
  ⟨rfl, rfl, rfl, rfl, hhost, ht, rfl⟩

theorem on_firstSite {r : Request}
    (ht : tenant? (withBudget seconds) (atTwoSites time wall) r = some firstSite) :
    (siteContext (withBudget seconds) (atTwoSites time wall) r firstSite).On (withBudget seconds)
      oneUser firstSite := by
  obtain ⟨-, htenant⟩ := of_tenant? ht
  exact ⟨rfl, rfl, serves_siteContext (not_isOver_of_tenant htenant) rfl rfl, by decide⟩

theorem signsIn_signingIn (ht : (Budget.seconds seconds).isOver time = false) :
    SignsIn (withBudget seconds) (atTwoSites time wall) signingIn firstSite 10 := by
  obtain ⟨hother, hexempt⟩ := (default_withBudget seconds).session
  have hbudget : ((Budgets.ofSettings (withBudget seconds)).choose DevSession.path).isOver time =
      false := by
    rw [DevSession.choose_path]
    exact ht
  refine ⟨rfl, rfl, readUserId_signingIn, ?_⟩
  rw [tenant?_eq (c := atTwoSites time wall) (r := signingIn) hother hexempt hbudget]
  show (Tenant.resolve twoSites false "a.org" "localhost").outcome.toOption = some firstSite
  rw [resolve_firstSite]
  rfl

/-- With time left the user is welcomed at any moment, as long as the clock is exact until the
session ends. -/
theorem ok_signingIn (ht : (Budget.seconds seconds).isOver time = false) (h₀ : 0 ≤ wall.micros)
    (hend : wall.micros + 2592000000000 < SessionToken.exactSeconds * 1000000) :
    (serve (withBudget seconds) (Route.sample ++ []) (atTwoSites time wall)
      signingIn).response.status = 200 := by
  have hsigns : SignsIn (withBudget seconds) (atTwoSites time wall) signingIn firstSite 10 :=
    signsIn_signingIn ht
  have hsignIn := DevSession.outcome_signIn (on_firstSite hsigns.tenant) rfl (.ok wall)
    (show fitsColumn 10 = true by decide)
  obtain ⟨cookie, hwelcome⟩ := DevSession.welcome_eq (s := withBudget seconds) (a := .hs256) 10 1
    rfl SessionToken.usable_initial (show Cookie.isLegalName "key" = true by decide)
    (SessionToken.shown_of_exact (show 0 ≤ wall.micros + 2592000000000 by omega) hend)
  rw [Route.sample, hsigns.response (hsignIn.trans hwelcome)]
  rfl

end

/-- A session that is used up to its end: on its site, on the other one, and too late. -/
theorem session_comes_back_for_a_month :
    let s := withBudget (Settings.wholeSeconds 3)
    let c := atTwoSites 1000 beginning
    let last := atTwoSites 2000 ⟨1702591999999999, by decide +kernel⟩
    let after := atTwoSites 3000 ⟨1702592000000000, by decide +kernel⟩
    let routes := Route.sample ++ []
    ∃ cookie,
      (serve s routes c signingIn).response =
        withId c signingIn (DevSession.welcomeWith 10 1 cookie) ∧
      (serve s routes last (comingBack "a.org" cookie)).response =
        withId last (comingBack "a.org" cookie) (settingsPage firstSite 10) ∧
      LedToSignIn s last (comingBack "b.org" cookie)
        (serve s routes last (comingBack "b.org" cookie)).response ∧
      LedToSignIn s after (comingBack "a.org" cookie)
        (serve s routes after (comingBack "a.org" cookie)).response := by
  intro s c last after routes
  obtain ⟨cookie, hanswer, hback⟩ := session_comes_back s _ [] c signingIn _ firstSite 10
    (a := .hs256) rfl (by decide) (default_withBudget _) rfl rfl rfl readUserId_signingIn
    resolve_firstSite rfl (by decide) (by decide) (by decide)
    (ok_signingIn threeSeconds_ahead (by decide) (by decide))
  obtain ⟨hwithin, -⟩ := hback last (comingBack "a.org" cookie) firstSite _
    (sendsBack_comingBack (by decide +kernel) resolve_firstSite) rfl
  obtain ⟨helsewhere, -⟩ := hback last (comingBack "b.org" cookie) secondSite _
    (sendsBack_comingBack (by decide +kernel) resolve_secondSite) rfl
  obtain ⟨-, hover⟩ := hback after (comingBack "a.org" cookie) firstSite _
    (sendsBack_comingBack (by decide +kernel) resolve_firstSite) rfl
  exact ⟨cookie, hanswer, (hwithin (by decide) (by decide)).1 rfl,
    (helsewhere (by decide) (by decide)).2 (by decide), hover (by decide)⟩

/-- A budget that was enough for the sign-in may leave no time later on. -/
theorem cut_off (seconds : Binary64) (time time' : Rat) (wall later : UtcTime)
    (hnow : (Budget.seconds seconds).isOver time = false)
    (hlate : (Budget.seconds seconds).isOver time' = true) (h₀ : 0 ≤ wall.micros)
    (hend : wall.micros + 2592000000000 < SessionToken.exactSeconds * 1000000) :
    ∃ cookie,
      (serve (withBudget seconds) (Route.sample ++ []) (atTwoSites time wall)
          signingIn).response =
        withId (atTwoSites time wall) signingIn (DevSession.welcomeWith 10 1 cookie) ∧
      (serve (withBudget seconds) (Route.sample ++ []) (atTwoSites time' later)
        (comingBack "a.org" cookie)).response.status = 504 := by
  obtain ⟨token, cookie, w⟩ := (signsIn_signingIn hnow).welcomed_of_ok (ok_signingIn hnow h₀ hend)
  obtain ⟨hother, hexempt⟩ := (default_withBudget seconds).settings
  have hover : ((Budgets.ofSettings (withBudget seconds)).choose SitePage.settings.path).isOver
      time' = true := by
    rw [choose_settings]
    exact hlate
  refine ⟨cookie, w.answer, ?_⟩
  rw [response_of_isOver (c := atTwoSites time' later) (r := comingBack "a.org" cookie)
    (Route.sample ++ []) hother hexempt hover]
  rfl

/-- A session does not always lead where it should: not with a budget, however positive, that is
lost in the time of the event loop or in its resolution. -/
theorem session_is_cut_off :
    let routes := Route.sample ++ []
    (let s := withBudget (.ofDecimal false 1 (-8))
      let later : UtcTime := ⟨2700000000500000, by decide +kernel⟩
      let c := atTwoSites 1000 beginning
      let late := atTwoSites 1000001000 later
      (∃ t, s.defaultSeconds.toRat? = some t ∧ 0 < t) ∧
      (Tenant.resolve late.store s.prod "a.org" s.domain).outcome = .ok firstSite ∧
      sessionEnd s beginning.micros ≤ later.micros ∧
      ∃ cookie,
        (serve s routes c signingIn).response =
          withId c signingIn (DevSession.welcomeWith 10 1 cookie) ∧
        (serve s routes late (comingBack "a.org" cookie)).response.status = 504) ∧
    (let s := withBudget (.ofDecimal false 97 (-11))
      let later : UtcTime := ⟨1700300000500000, by decide +kernel⟩
      let c := atTwoSites 301000 beginning
      let late := atTwoSites 601000 later
      (∃ t, s.defaultSeconds.toRat? = some t ∧ late.time < Moment.after late.time t) ∧
      (Tenant.resolve late.store s.prod "a.org" s.domain).outcome = .ok firstSite ∧
      SessionToken.secondOf beginning.micros ≤ later.micros ∧
      later.micros < sessionEnd s beginning.micros ∧
      ∃ cookie,
        (serve s routes c signingIn).response =
          withId c signingIn (DevSession.welcomeWith 10 1 cookie) ∧
        (serve s routes late (comingBack "a.org" cookie)).response.status = 504) := by
  intro routes
  refine ⟨?lost, ?unresolved⟩
  case lost =>
    intro s later c late
    have hcut := cut_off (.ofDecimal false 1 (-8)) 1000 1000001000 beginning later
      (by decide +kernel) (by decide +kernel) (by decide) (by decide)
    exact ⟨⟨_, rfl, by decide +kernel⟩, resolve_firstSite, by decide, hcut⟩
  case unresolved =>
    intro s later c late
    have hcut := cut_off (.ofDecimal false 97 (-11)) 301000 601000 beginning later
      (by decide +kernel) (by decide +kernel) (by decide) (by decide)
    exact ⟨⟨_, rfl, by decide +kernel⟩, resolve_firstSite, by decide, by decide, hcut⟩

end Exchange

end Gatehouse
