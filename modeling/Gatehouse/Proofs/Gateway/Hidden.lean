import Gatehouse.Proofs.Gateway.SignInBody
import Gatehouse.Proofs.Gateway.SignedIn

/-! # The sign-in path in production

In production there is nobody to sign in: whoever is named, the answer is that there is nothing
here, and no answer of any kind sets a cookie (`hidden_in_production`). But the body is read first,
and one that names nobody is refused as it is anywhere else, so that the path can be told from one
that is not there (`refused_in_production`). -/

namespace Gatehouse

open Traced

namespace DevSession

theorem signIn_of_prod {ctx : Context} (h : ctx.settings.prod = true) (now : Reading)
    (userId : Int) : (signIn ctx now userId).outcome = .ok notFound := by
  unfold signIn
  rw [h]
  rfl

end DevSession

namespace Exchange

variable {s : Settings} {pages : String → String × String} {own : List Route}
variable {c : Circumstances} {r : Request} {site : Tenant}

/-! ### Answers without a cookie -/

theorem cookies_withId (answer : Response) : (withId c r answer).cookies = answer.cookies :=
  answer.cookies_withHeader _ (by decide)

theorem lengthless_json (status : Nat) (body : Json) :
    lengthless (Response.json status body) = Response.json status body := rfl

theorem cookies_timedOut : timedOut.cookies = [] := Response.cookies_plain ..

theorem cookies_crash : Response.crash.cookies = [] := Response.cookies_plain ..

/-! ### A body that is refused -/

theorem reply_refusal (refusal : DevSession.Refusal) :
    (reply c r refusal.respond).cookies = [] ∧ (reply c r refusal.respond).status ≠ 404 := by
  cases h : refusal.respond with
  | ok answer =>
    obtain ⟨status, body, rfl, hstatus⟩ := DevSession.Refusal.respond_ok h
    refine ⟨(cookies_withId _).trans (Response.cookies_json ..), ?_⟩
    show status ≠ 404
    omega
  | error f =>
    refine ⟨cookies_crash, ?_⟩
    show Response.crash.status ≠ 404
    decide

/-- A body that is refused is answered so before anything else is looked at. -/
theorem response_of_refusal (hmethod : r.method = "POST") (hpath : r.path = DevSession.path)
    (ht : tenant? s c r = some site) {refusal : DevSession.Refusal}
    (h : DevSession.readUserId r = .error refusal) :
    (serve s (Route.standard pages ++ own) c r).response = reply c r refusal.respond := by
  have hahead : (siteContext s c r site).rushed = false := not_isOver_of_tenant (of_tenant? ht).2
  have hrespond : (DevSession.respond (siteContext s c r site) c.wall r).outcome =
      refusal.respond := by
    unfold DevSession.respond Context.wait
    rw [h, hahead]
    rfl
  cases hanswer : refusal.respond with
  | ok answer =>
    obtain ⟨status, body, rfl, -⟩ := DevSession.Refusal.respond_ok hanswer
    rw [response_of_route ht (route_session_of_ok hmethod hpath (hrespond.trans hanswer)),
      lengthless_json]
    rfl
  | error f =>
    have hroute : (Dispatch.route (Route.standard pages ++ own) _ c.wall r).outcome = _ :=
      route_session_of_error hmethod hpath (hrespond.trans hanswer)
    rcases DevSession.Refusal.respond_error hanswer with rfl | rfl
    · exact response_of_route_failure ht rfl hroute
    · exact response_of_route_failure ht rfl hroute

/-! ### In production -/

/-- **In production nobody is signed in.** No answer for the sign-in path sets a cookie, and whoever
is named is not there. But a body that names nobody is refused for what is wrong with it. -/
theorem hidden_in_production (s : Settings) (pages : String → String × String) (own : List Route)
    (c : Circumstances) (r : Request) (site : Tenant) (hprod : s.prod = true)
    (hdefault : DefaultPaths s)
    (hmethod : r.method = "POST") (hpath : r.path = DevSession.path)
    (hhost : (Tenant.resolve c.store s.prod r.host s.domain).outcome = .ok site) :
    let answer := (serve s (Route.standard pages ++ own) c r).response
    answer.cookies = [] ∧
      if ((Budgets.ofSettings s).choose r.path).isOver c.time then answer = withId c r timedOut
      else match DevSession.readUserId r with
        | .ok _ => answer = withId c r DevSession.notFound
        | .error refusal => answer = reply c r refusal.respond ∧ answer.status ≠ 404 := by
  intro answer
  cases hover : ((Budgets.ofSettings s).choose r.path).isOver c.time with
  | true =>
    have hanswer : answer = withId c r timedOut := hdefault.session_of_isOver _ hpath hover
    rw [if_pos rfl, hanswer, cookies_withId]
    exact ⟨cookies_timedOut, rfl⟩
  | false =>
    have ht := hdefault.tenant_session hpath hhost hover
    rw [if_neg Bool.false_ne_true]
    cases huser : DevSession.readUserId r with
    | ok userId =>
      have hanswer : answer = withId c r DevSession.notFound :=
        SignsIn.response ⟨hmethod, hpath, huser, ht⟩ (DevSession.signIn_of_prod hprod _ _)
      rw [hanswer, cookies_withId]
      exact ⟨Response.cookies_json .., rfl⟩
    | error refusal =>
      have hanswer : answer = reply c r refusal.respond :=
        response_of_refusal hmethod hpath ht huser
      obtain ⟨hcookies, hstatus⟩ := reply_refusal (c := c) (r := r) refusal
      rw [hanswer]
      exact ⟨hcookies, rfl, hstatus⟩

theorem ahead_session : ((Budgets.ofSettings (withBudget (Settings.wholeSeconds 3))).choose
    DevSession.path).isOver 1000 = false := by
  rw [DevSession.choose_path]
  exact threeSeconds_ahead

/-- The settings of the start, with time for an answer, in production. -/
def inProduction : Settings :=
  { withBudget (Settings.wholeSeconds 3) with deployment := .prod }

/-- The user is one of the first site, and yet is not there. -/
theorem user_hidden_in_production :
    let c := atTwoSites 1000 beginning
    let answer := (serve inProduction (Route.sample ++ []) c signingIn).response
    (oneUser.ofSite 10 firstSite.id).isSome = true ∧ answer.cookies = [] ∧
      answer = withId c signingIn DevSession.notFound := by
  intro c answer
  have htime : ¬((Budgets.ofSettings inProduction).choose signingIn.path).isOver c.time = true :=
    ne_true_of_eq_false ahead_session
  obtain ⟨hcookies, hanswer⟩ := hidden_in_production inProduction _ [] c signingIn firstSite rfl
    ⟨rfl, rfl⟩ rfl rfl rfl
  rw [if_neg htime, readUserId_signingIn] at hanswer
  exact ⟨by decide, hcookies, hanswer⟩

/-- A request for the sign-in path of the first site with a body of its own. -/
def withBody (body : String) : Request := { signingIn with body }

/-- The text of an object whose id is no number of the standard. -/
def endlessId : String := (Json.object [(DevSession.userField, .float (.infinite false))]).write
  .compact

theorem readUserId_endlessId : DevSession.readUserId (withBody endlessId) =
    .error (DevSession.fault [.name DevSession.userField] .finiteNumber
      (.float (.infinite false))) := by
  have hlegible : Json.Legible Json.maxDepth
      (.object [(DevSession.userField, .float (.infinite false))]) := by
    refine .object (by simp) fun m hm => ?_
    obtain rfl := List.mem_singleton.1 hm
    exact .infinite false
  have hwrites : DevSession.Writes (withBody endlessId) .compact
      (.object [(DevSession.userField, .float (.infinite false))]) :=
    ⟨by decide, rfl⟩
  unfold DevSession.readUserId
  rw [DevSession.document_of_legible hwrites Json.Layout.blank_compact rfl hlegible]
  rfl

/-- The path can be told from one that is not there: a request without a body is refused, and a body
whose refusal cannot be written breaks the request down. -/
theorem refused_in_production :
    let c := atTwoSites 1000 beginning
    let answer := fun body => (serve inProduction (Route.sample ++ []) c (withBody body)).response
    (Tenant.resolve c.store inProduction.prod "a.org" inProduction.domain).outcome =
        .ok firstSite ∧
      (answer "").status = 422 ∧ (answer endlessId).status = 500 := by
  intro c answer
  have hhost : (Tenant.resolve c.store inProduction.prod "a.org" inProduction.domain).outcome =
      .ok firstSite := rfl
  have ht (body : String) : tenant? inProduction c (withBody body) = some firstSite :=
    DefaultPaths.tenant_session ⟨rfl, rfl⟩ rfl hhost ahead_session
  have hreply (body : String) {refusal : DevSession.Refusal}
      (h : DevSession.readUserId (withBody body) = .error refusal) :
      answer body = reply c (withBody body) refusal.respond :=
    response_of_refusal rfl rfl (ht body) h
  have habsent : DevSession.readUserId (withBody "") =
      .error (DevSession.fault [] .missing .null) := rfl
  refine ⟨hhost, ?_, ?_⟩
  · rw [hreply "" habsent]
    rfl
  · rw [hreply endlessId readUserId_endlessId]
    rfl

end Exchange

end Gatehouse
