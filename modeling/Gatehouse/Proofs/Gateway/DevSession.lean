import Gatehouse.Proofs.Gateway.OnSite
import Gatehouse.Proofs.Http.Cookies
import Gatehouse.Proofs.Session.Window

/-! # The answer of the development sign-in

A user is welcomed exactly if it is one of the site (`outcome_signIn`), and the welcome sets a
cookie with a token that was issued for it (`welcome_eq`). Conversely, whoever receives 200 has been
welcomed (`SignsIn.welcomed_of_ok`): everything else that can become of such a request has another
status. -/

namespace Gatehouse

open Traced

namespace SessionToken

/-! ### Tokens in cookies -/

/-- A token that was put together needs no quotes in a cookie. -/
theorem isTokenChar_assemble {a : Signer} {cfg : SessionConfig} {v : Json} {c : Char}
    (h : c ∈ (assemble a cfg v).toList) : Cookie.isTokenChar c = true := by
  have hsegment : ∀ bytes, ∀ c ∈ Base64Url.encode bytes, Cookie.isTokenChar c = true := by
    intro bytes c hc
    obtain ⟨d, hd, rfl⟩ := Base64Url.exists_digit hc
    exact (by decide : ∀ d, d < 64 → Cookie.isTokenChar (Base64Url.digit d) = true) d hd
  unfold assemble at h
  rw [String.toList_ofList] at h
  simp only [List.mem_append, List.mem_cons] at h
  rcases h with (h | rfl | h) | rfl | h
  · exact hsegment _ c h
  · decide
  · exact hsegment _ c h
  · decide
  · exact hsegment _ c h

theorem assemble_ne_empty (a : Signer) (cfg : SessionConfig) (v : Json) :
    assemble a cfg v ≠ "" := by
  intro h
  have hempty := congrArg String.toList h
  unfold assemble at hempty
  simp at hempty

theorem ne_empty_of_issue {a : SigningAlgorithm} {cfg : SessionConfig} {claims : SessionClaims}
    {now : Reading} {ttl : Duration} {token : String}
    (ha : SigningAlgorithm.ofName? cfg.algorithm = some a)
    (h : issue cfg claims now ttl = .ok token) : token ≠ "" := by
  obtain ⟨t, rfl⟩ := exists_of_issue h
  obtain ⟨-, rfl⟩ := issue_ok ha h
  exact assemble_ne_empty _ _ _

theorem quote_assemble (a : Signer) (cfg : SessionConfig) (v : Json) :
    Cookie.quote (assemble a cfg v) = assemble a cfg v := by
  have hne : (assemble a cfg v).toList ≠ [] := fun h =>
    assemble_ne_empty a cfg v (String.toList_eq_nil_iff.1 h)
  unfold Cookie.quote
  refine if_pos ?_
  simp only [Bool.and_eq_true, Bool.not_eq_true', List.isEmpty_eq_false_iff, List.all_eq_true]
  exact ⟨hne, fun c hc => isTokenChar_assemble hc⟩

theorem narrow_assemble (a : Signer) (cfg : SessionConfig) (v : Json) :
    (Cookie.quote (assemble a cfg v)).toList.all Cookie.isNarrow = true := by
  rw [quote_assemble]
  refine List.all_eq_true.2 fun c hc => decide_eq_true ?_
  have := Cookie.toNat_of_isTokenChar (isTokenChar_assemble hc)
  omega

end SessionToken

namespace DevSession

/-! ### The body -/

def path : String := "/v1/dev/session"

theorem find_path (pages : String → String × String) (own : List Route) :
    Route.find (Route.standard pages ++ own) "POST" path = .found .devSession :=
  Route.find_append rfl own

theorem choose_path (b : Budgets) : b.choose path = b.default := rfl

/-- Nobody is named by an id below one. -/
theorem one_le_of_readUserId {r : Request} {userId : Int} (h : readUserId r = .ok userId) :
    1 ≤ userId := by
  have hcheck : ∀ v n, checkId v = .ok n → 1 ≤ n := by
    intro v n hn
    unfold checkId at hn
    split at hn
    · split at hn
      · rename_i hle
        obtain rfl := Except.ok.inj hn
        exact hle
      · cases hn
    · cases hn
  unfold readUserId at h
  cases hdocument : document r with
  | error refusal =>
    rw [hdocument] at h
    cases h
  | ok v =>
    rw [hdocument] at h
    change userIdOf v = .ok userId at h
    unfold userIdOf at h
    split at h
    · split at h
      · cases h
      · split at h
        · rename_i hn
          obtain rfl := Except.ok.inj h
          exact hcheck _ _ hn
        · cases h
    · cases h

/-! ### The answer -/

/-- The answer that welcomes a user. -/
def welcomeWith (userId siteId : Int) (cookie : String) : Response :=
  (Response.json 200 (.object [("user_id", .int userId), ("site_id", .int siteId)])).withHeader
    "set-cookie" cookie

section

variable {s : Settings} {ctx : Context} {users : Users} {site : Tenant} {now : Reading}
  {userId siteId : Int} {answer : Response}

theorem welcome_ok (h : welcome s now userId siteId = .ok answer) :
    ∃ token cookie,
      SessionToken.issue (.ofSettings s) ⟨userId, siteId⟩ now (lifetime s) = .ok token ∧
      Cookie.setHeader s.sessionCookie token none = .ok cookie ∧
      answer = welcomeWith userId siteId cookie := by
  unfold welcome at h
  obtain ⟨token, htoken, h⟩ := SessionToken.bind_eq_ok h
  obtain ⟨cookie, hcookie, h⟩ := SessionToken.bind_eq_ok h
  exact ⟨token, cookie, htoken, hcookie, (Except.ok.inj h).symm⟩

/-- Whoever is answered with 200 is a user of the site, and welcome. -/
theorem signIn_ok (hsite : ctx.site = some site)
    (h : (signIn ctx now userId).outcome = .ok answer) (hstatus : answer.status = 200) :
    ctx.settings.prod = false ∧ fitsColumn userId = true ∧ fitsColumn site.id = true ∧
      (∃ users row, ctx.store.database.usersTable = .ok users ∧
        users.ofSite userId site.id = some row) ∧
      welcome ctx.settings now userId site.id = .ok answer := by
  unfold signIn at h
  rw [hsite] at h
  cases hprod : ctx.settings.prod with
  | true =>
    rw [hprod] at h
    obtain rfl := Except.ok.inj h
    cases hstatus
  | false =>
    rw [hprod] at h
    dsimp only at h
    obtain ⟨row, hrow, h⟩ := outcome_bind_ok.1 h
    cases row with
    | none =>
      obtain rfl := Except.ok.inj h
      cases hstatus
    | some row =>
      have hfits := Store.ask_fits hrow
      simp only [List.all_cons, List.all_nil, Bool.and_true, Bool.and_eq_true] at hfits
      obtain ⟨users, husers, hfound⟩ := Store.ask_ok hrow
      obtain ⟨-, hid, -⟩ := Users.mem_of_ofSite hfound.symm
      change welcome ctx.settings now row.id site.id = .ok answer at h
      rw [hid] at h
      exact ⟨rfl, hfits.1, hfits.2, ⟨users, row, husers, hfound.symm⟩, h⟩

/-- **A user of the site is welcomed**, and nobody else. -/
theorem outcome_signIn (h : ctx.On s users site) (hprod : s.prod = false) (now : Reading)
    {userId : Int} (hu : fitsColumn userId = true) :
    (signIn ctx now userId).outcome =
      match users.ofSite userId site.id with
      | none => .ok notFound
      | some _ => welcome s now userId site.id := by
  have hrow := h.store.userOfSite hu h.fits
  unfold signIn
  rw [h.site, h.settings, hprod]
  dsimp only
  rw [outcome_bind, hrow]
  cases hfound : users.ofSite userId site.id with
  | none => rfl
  | some row =>
    obtain ⟨-, hid, -⟩ := Users.mem_of_ofSite hfound
    dsimp only [Except.bind]
    rw [hid]
    rfl

/-- A deployment that signs with a key welcomes a user without fail, as long as the end of the
session can be shown. -/
theorem welcome_eq {a : SigningAlgorithm} (userId siteId : Int) {now : UtcTime}
    (ha : SigningAlgorithm.ofName? s.sessionAlgorithm = some a)
    (hsecret : Secret.usable s.sessionSecret = true)
    (hlegal : Cookie.isLegalName s.sessionCookie = true)
    (hend : CivilTime.firstMicros ≤ now.micros + (lifetime s).micros ∧
      now.micros + (lifetime s).micros < CivilTime.endMicros) :
    ∃ cookie, welcome s (.ok now) userId siteId = .ok (welcomeWith userId siteId cookie) := by
  let claims : SessionClaims := ⟨userId, siteId⟩
  let payload := SessionToken.issuedPayload (.ofSettings s) claims now (lifetime s)
  have hissue : SessionToken.issue (.ofSettings s) claims (.ok now) (lifetime s) =
      .ok (SessionToken.assemble (.keyed a) (.ofSettings s) payload) :=
    SessionToken.issue_of_shown ha hsecret hend
  have hplain : (Cookie.attributes none).toList.all Cookie.isNarrow = true := by decide
  obtain ⟨cookie, hset⟩ := Cookie.setHeader_of_narrow hlegal
    (SessionToken.narrow_assemble (.keyed a) (.ofSettings s) payload) hplain
  refine ⟨cookie, ?_⟩
  unfold welcome
  rw [hissue, SessionToken.ok_bind, hset, SessionToken.ok_bind]
  rfl

end

end DevSession

namespace Exchange

variable {s : Settings} {pages : String → String × String} {own : List Route}
variable {c : Circumstances} {r : Request} {site : Tenant}

/-! ### The route -/

section

variable {ctx : Context} {now : Reading} (hmethod : r.method = "POST")
  (hpath : r.path = DevSession.path)

include hmethod hpath

theorem route_session_of_ok {answer : Response}
    (ho : (DevSession.respond ctx now r).outcome = .ok answer) :
    (Dispatch.route (Route.standard pages ++ own) ctx now r).outcome = .ok (.answer answer) := by
  have hact : (Dispatch.act .devSession ctx now r).outcome = .ok (.answer answer) := by
    unfold Dispatch.act
    dsimp only
    rw [outcome_bind, ho]
    rfl
  unfold Dispatch.route
  rw [hmethod, hpath, DevSession.find_path]
  exact outcome_rescue_ok hact _

theorem route_session_of_error {f : Failure}
    (ho : (DevSession.respond ctx now r).outcome = .error f) :
    (Dispatch.route (Route.standard pages ++ own) ctx now r).outcome =
      (Dispatch.answerError ctx.settings f).map .answer := by
  have hact : (Dispatch.act .devSession ctx now r).outcome = .error f := by
    unfold Dispatch.act
    dsimp only
    rw [outcome_bind, ho]
    rfl
  unfold Dispatch.route
  rw [hmethod, hpath, DevSession.find_path]
  dsimp only
  rw [outcome_rescue_error hact]
  rfl

end

/-! ### The exchange -/

/-- A request whose user is to be signed in for a site. -/
structure SignsIn (s : Settings) (c : Circumstances) (r : Request) (site : Tenant) (userId : Int) :
    Prop where
  method : r.method = "POST"
  path : r.path = DevSession.path
  user : DevSession.readUserId r = .ok userId
  tenant : tenant? s c r = some site

section

variable {userId : Int} (h : SignsIn s c r site userId)

include h

theorem SignsIn.respond_eq : DevSession.respond (siteContext s c r site) c.wall r =
    DevSession.signIn (siteContext s c r site) c.wall userId := by
  have hahead : (siteContext s c r site).rushed = false :=
    not_isOver_of_tenant (of_tenant? h.tenant).2
  unfold DevSession.respond Context.wait
  rw [h.user, hahead]
  rfl

theorem SignsIn.response {answer : Response}
    (ho : (DevSession.signIn (siteContext s c r site) c.wall userId).outcome = .ok answer) :
    (serve s (Route.standard pages ++ own) c r).response = withId c r (lengthless answer) :=
  response_of_route h.tenant (route_session_of_ok h.method h.path (by rw [h.respond_eq, ho]))

theorem SignsIn.status_ne {f : Failure}
    (ho : (DevSession.signIn (siteContext s c r site) c.wall userId).outcome = .error f) :
    (serve s (Route.standard pages ++ own) c r).response.status ≠ 200 := by
  refine status_of_route_refused h.tenant ?_
  rw [route_session_of_error h.method h.path (by rw [h.respond_eq, ho])]
  exact refused_answerError _ f

/-- What is known once the request has been answered with 200: the token, and the cookie that it was
set in. -/
structure Welcomed (s : Settings) (c : Circumstances) (r : Request) (site : Tenant) (userId : Int)
    (answer : Response) (token cookie : String) : Prop where
  prod : s.prod = false
  fitsUser : fitsColumn userId = true
  fitsSite : fitsColumn site.id = true
  user : ∃ users row, c.store.database.users = some users ∧
    users.ofSite userId site.id = some row
  issued : SessionToken.issue (.ofSettings s) ⟨userId, site.id⟩ c.wall (DevSession.lifetime s) =
    .ok token
  set : Cookie.setHeader s.sessionCookie token none = .ok cookie
  answer : answer = withId c r (DevSession.welcomeWith userId site.id cookie)

/-- **Whoever receives 200 has been welcomed.** -/
theorem SignsIn.welcomed_of_ok
    (hok : (serve s (Route.standard pages ++ own) c r).response.status = 200) :
    ∃ token cookie,
      Welcomed s c r site userId (serve s (Route.standard pages ++ own) c r).response token
        cookie := by
  cases ho : (DevSession.signIn (siteContext s c r site) c.wall userId).outcome with
  | error f => exact absurd hok (h.status_ne ho)
  | ok answer =>
    have hresponse : (serve s (Route.standard pages ++ own) c r).response = _ := h.response ho
    rw [hresponse] at hok ⊢
    obtain ⟨hprod, hfitsUser, hfitsSite, ⟨users, row, husers, hrow⟩, hwelcome⟩ :=
      DevSession.signIn_ok rfl ho hok
    obtain ⟨token, cookie, hissued, hset, rfl⟩ := DevSession.welcome_ok hwelcome
    refine ⟨token, cookie, hprod, hfitsUser, hfitsSite, ⟨users, row, ?_, hrow⟩, hissued, hset, rfl⟩
    change (requestContext s c r).store.database.usersTable = .ok users at husers
    rw [database_requestContext] at husers
    unfold Database.usersTable at husers
    cases hfound : c.store.database.users with
    | none =>
      rw [hfound] at husers
      cases husers
    | some found =>
      rw [hfound] at husers
      rw [Except.ok.inj husers]

end

end Exchange

end Gatehouse
