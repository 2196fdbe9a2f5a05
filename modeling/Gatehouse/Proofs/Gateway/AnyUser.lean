import Gatehouse.Proofs.Gateway.Hidden

/-! # Signing in any user

Whoever is named by an id that a column can hold is welcomed if it is a user of the site, with one
cookie, and told that there is nothing here otherwise (`signs_in_exactly`). An id that no column can
hold is no user's either, but it is not found out to be none: the query breaks the request down, and
the integer of an id that is longer still is not even read (`ids_without_answer`). -/

namespace Gatehouse

open Traced

namespace DevSession

theorem signIn_beyond {ctx : Context} {s : Settings} {users : Users} {site : Tenant} {userId : Int}
    (h : ctx.On s users site) (hprod : s.prod = false) (hu : fitsColumn userId = false)
    (now : Reading) : (signIn ctx now userId).outcome = .error beyondColumn := by
  unfold signIn
  rw [h.site, h.settings, hprod]
  dsimp only
  rw [outcome_bind, h.store.userOfSite_beyond hu]
  rfl

end DevSession

namespace Exchange

variable {s : Settings} {pages : String → String × String} {own : List Route}
variable {c : Circumstances} {r : Request} {site : Tenant} {users : Users} {n : Int} {now : UtcTime}

/-- Settings and a moment with which sessions can be begun. -/
structure BeginsSessions (s : Settings) (now : UtcTime) : Prop where
  development : s.prod = false
  paths : DefaultPaths s
  algorithm : ∃ a, SigningAlgorithm.ofName? s.sessionAlgorithm = some a
  secret : Secret.usable s.sessionSecret = true
  cookie : Cookie.isLegalName s.sessionCookie = true
  expiry : CivilTime.firstMicros ≤ now.micros + (DevSession.lifetime s).micros ∧
    now.micros + (DevSession.lifetime s).micros < CivilTime.endMicros

/-- The user is one of the site. -/
def IsUserOf (users : Users) (site : Tenant) (n : Int) : Prop :=
  ∃ u ∈ users.rows, u.id = n ∧ u.siteId = site.id

theorem Welcomed.cookies {answer : Response} {token cookie : String}
    (w : Welcomed s c r site n answer token cookie) : answer.cookies = [cookie] := by
  rw [w.answer, cookies_withId, DevSession.welcomeWith, Response.cookies_setCookie,
    Response.cookies_json]
  rfl

/-! ### The answer on a site -/

section

variable (h : SignsIn s c r site n) (hs : BeginsSessions s now)
  (hon : (siteContext s c r site).On s users site)

include h hs hon

/-- A user of the site is welcomed. -/
theorem SignsIn.welcomed (hwall : c.wall = .ok now) (hfits : fitsColumn n = true)
    (hn : IsUserOf users site n) :
    ∃ token cookie, Welcomed s c r site n (serve s (Route.standard pages ++ own) c r).response token
      cookie := by
  obtain ⟨a, ha⟩ := hs.algorithm
  obtain ⟨row, hrow⟩ := Users.exists_ofSite_iff.2 hn
  have hsignIn := DevSession.outcome_signIn hon hs.development c.wall hfits
  rw [hrow] at hsignIn
  obtain ⟨cookie, hwelcome⟩ := DevSession.welcome_eq n site.id ha hs.secret hs.cookie hs.expiry
  rw [← hwall] at hwelcome
  refine h.welcomed_of_ok ?_
  rw [h.response (hsignIn.trans hwelcome)]
  rfl

theorem SignsIn.not_found (hfits : fitsColumn n = true) (hn : ¬IsUserOf users site n) :
    (serve s (Route.standard pages ++ own) c r).response = withId c r DevSession.notFound := by
  have hsignIn := DevSession.outcome_signIn hon hs.development c.wall hfits
  have hnone : users.ofSite n site.id = none := by
    rw [Option.eq_none_iff_forall_ne_some]
    exact fun row hrow => hn (Users.exists_ofSite_iff.1 ⟨row, hrow⟩)
  rw [hnone] at hsignIn
  exact h.response hsignIn

theorem SignsIn.breaks_down (hfits : fitsColumn n = false) :
    (serve s (Route.standard pages ++ own) c r).response = .crash := by
  have hfails : (DevSession.respond (siteContext s c r site) c.wall r).outcome =
      .error beyondColumn := by
    rw [h.respond_eq, DevSession.signIn_beyond hon hs.development hfits]
  exact response_of_route_failure h.tenant rfl (route_session_of_error h.method h.path hfails)

end

/-! ### Any user -/

/-- **Users of the site are signed in, and nobody else**, among all that can be in the table. -/
theorem signs_in_exactly (s : Settings) (pages : String → String × String) (own : List Route)
    (c : Circumstances) (r : Request) (sites : Sites) (users : Users) (site : Tenant) (n : Int)
    {now : UtcTime} (hs : BeginsSessions s now) (hwall : c.wall = .ok now)
    (hdb : c.store.database = ⟨some sites, some users⟩)
    (hids : ∀ row ∈ sites.rows, fitsColumn row.id = true)
    (hfaults : c.store.faults = fun _ => none)
    (hmethod : r.method = "POST") (hpath : r.path = DevSession.path)
    (hhost : (Tenant.resolve c.store s.prod r.host s.domain).outcome = .ok site)
    (hone : 1 ≤ n) (hnamed : DevSession.Names r n) :
    let answer := (serve s (Route.standard pages ++ own) c r).response
    if ((Budgets.ofSettings s).choose r.path).isOver c.time then answer = withId c r timedOut
    else if fitsColumn n then
      (IsUserOf users site n → ∃ token cookie, Welcomed s c r site n answer token cookie ∧
        answer.cookies = [cookie]) ∧
      (¬IsUserOf users site n → answer = withId c r DevSession.notFound ∧ answer.cookies = [])
    else answer = .crash ∨ ¬IntegerLiteral.Fits n ∧
      answer = withId c r (Response.detail 400 "There was an error parsing the body") := by
  intro answer
  split
  · rename_i hover
    exact hs.paths.session_of_isOver _ hpath hover
  · rename_i hover
    have hahead := Bool.eq_false_iff.2 hover
    have ht := hs.paths.tenant_session hpath hhost hahead
    obtain ⟨row, hrow, hsite⟩ := Tenant.resolve_mem (by rw [hdb]) hhost
    have hon : (siteContext s c r site).On s users site :=
      ⟨rfl, rfl, serves_siteContext hahead hfaults (by rw [hdb]), hsite ▸ hids row hrow⟩
    rcases hnamed.cases hone with hread | ⟨hlong, hrefused⟩
    · have h : SignsIn s c r site n := ⟨hmethod, hpath, hread, ht⟩
      split
      · rename_i hfits
        constructor
        · intro hn
          obtain ⟨token, cookie, w⟩ : ∃ token cookie, Welcomed s c r site n answer token cookie :=
            h.welcomed hs hon hwall hfits hn
          exact ⟨token, cookie, w, w.cookies⟩
        · intro hn
          have hanswer : answer = withId c r DevSession.notFound := h.not_found hs hon hfits hn
          rw [hanswer, cookies_withId]
          exact ⟨rfl, Response.cookies_json ..⟩
      · rename_i hfits
        exact .inl (h.breaks_down hs hon (Bool.eq_false_iff.2 hfits))
    · have hfits : ¬fitsColumn n = true := fun hfits =>
        hlong (IntegerLiteral.fits_of_fitsColumn hfits)
      rw [if_neg hfits]
      exact .inr ⟨hlong, response_of_refusal hmethod hpath ht hrefused⟩

/-! ### Ids of any length -/

theorem beginsSessions_withBudget (seconds : Binary64) :
    BeginsSessions (withBudget seconds) beginning where
  development := rfl
  paths := default_withBudget seconds
  algorithm := ⟨.hs256, rfl⟩
  secret := SessionToken.usable_initial
  cookie := show Cookie.isLegalName "key" = true by decide
  expiry := show CivilTime.firstMicros ≤ beginning.micros + 2592000000000 ∧
    beginning.micros + 2592000000000 < CivilTime.endMicros by decide

/-- A request that names a user by the integer of its id. -/
def naming (n : Int) : Request :=
  withBody ((Json.object [(DevSession.userField, .int n)]).write .compact)

theorem writesUser_naming (n : Int) : DevSession.WritesUser (naming n) .compact
    [(DevSession.userField, .int n)] n where
  writes := by
    refine ⟨?_, rfl⟩
    show ((signingIn.header? "content-type").map DevSession.isJsonType).getD false = true
    decide
  blank := Json.Layout.blank_compact
  ascii := rfl
  names := by simp
  mem := List.mem_cons_self
  others m hm hname := by
    obtain rfl := List.mem_singleton.1 hm
    exact absurd rfl hname

/-- The user of the first site is signed in there, and nobody of another id. -/
theorem one_user_signed_in :
    let s := withBudget (Settings.wholeSeconds 3)
    let c := atTwoSites 1000 beginning
    let answer := fun n => (serve s (Route.sample ++ []) c (naming n)).response
    (∃ token cookie, Welcomed s c (naming 10) firstSite 10 (answer 10) token cookie ∧
      (answer 10).cookies = [cookie]) ∧
    answer 11 = withId c (naming 11) DevSession.notFound ∧ (answer 11).cookies = [] := by
  intro s c answer
  have hahead (n : Int) : ¬((Budgets.ofSettings s).choose (naming n).path).isOver c.time = true :=
    ne_true_of_eq_false ahead_session
  have hanswer (n : Int) (hone : 1 ≤ n) (hfits : fitsColumn n = true) :
      (IsUserOf oneUser firstSite n → ∃ token cookie,
        Welcomed s c (naming n) firstSite n (answer n) token cookie ∧
          (answer n).cookies = [cookie]) ∧
      (¬IsUserOf oneUser firstSite n →
        answer n = withId c (naming n) DevSession.notFound ∧ (answer n).cookies = []) := by
    have h := signs_in_exactly s (fun _ => ("text/html", "")) [] c (naming n) _ oneUser firstSite n
      (beginsSessions_withBudget _) rfl rfl (by decide) rfl rfl rfl resolve_firstSite hone
      (.written (writesUser_naming n))
    dsimp only at h
    rwa [if_neg (hahead n), if_pos hfits] at h
  obtain ⟨hwelcomed, -⟩ := hanswer 10 (by decide) (by decide)
  obtain ⟨-, hnobody⟩ := hanswer 11 (by decide) (by decide)
  exact ⟨hwelcomed ⟨⟨10, 1, "u@a.org", none⟩, by decide⟩, hnobody (by unfold IsUserOf; decide)⟩

/-- An id that no column can hold is answered as no user's, neither where it can be read nor where
it has too many digits. -/
theorem ids_without_answer :
    let s := withBudget (Settings.wholeSeconds 3)
    let c := atTwoSites 1000 beginning
    let answer := fun n => (serve s (Route.sample ++ []) c (naming n)).response
    (Tenant.resolve c.store s.prod "a.org" s.domain).outcome = .ok firstSite ∧
      (∀ n, IsUserOf oneUser firstSite n → n = 10) ∧
      (answer (2 ^ 63)).status = 500 ∧ (answer (10 ^ 4300)).status = 400 := by
  intro s c answer
  have ht (n : Int) : tenant? s c (naming n) = some firstSite :=
    (default_withBudget _).tenant_session rfl resolve_firstSite ahead_session
  refine ⟨resolve_firstSite, ?_, ?_, ?_⟩
  · rintro n ⟨u, hu, rfl, -⟩
    obtain rfl := List.mem_singleton.1 hu
    rfl
  · have hread : DevSession.readUserId (naming (2 ^ 63)) = .ok (2 ^ 63) :=
      (writesUser_naming _).readUserId_of_fits (by decide)
        (SessionToken.fits_of_natAbs_le (by decide))
    have h : SignsIn s c (naming (2 ^ 63)) firstSite (2 ^ 63) := ⟨rfl, rfl, hread, ht _⟩
    have hanswer : answer (2 ^ 63) = .crash :=
      h.breaks_down (beginsSessions_withBudget _) (on_firstSite (ht _)) (by decide)
    rw [hanswer]
    rfl
  · have hlong : ¬IntegerLiteral.Fits (10 ^ 4300) := by
      have hten : Int.natAbs 10 = 10 := rfl
      unfold IntegerLiteral.Fits IntegerLiteral.maxDigits
      rw [Int.natAbs_pow, hten, Nat.length_toDigits_le_iff (by decide) (by decide)]
      exact lt_irrefl _
    have hanswer : answer (10 ^ 4300) = _ :=
      response_of_refusal rfl rfl (ht _) ((writesUser_naming _).readUserId_of_overlong hlong)
    rw [hanswer]
    rfl

end Exchange

end Gatehouse
