import Gatehouse.Proofs.Gateway.Authorization

/-! # Requests with a tenant

A request for a path that needs a site, with time left, has the tenant that its host leads to
(`tenant?_eq`), and what comes of it is what comes of its route on that site (`response_of_route`,
`response_of_route_failure`). Without time left it is answered by the guard
(`response_of_isOver`). -/

namespace Gatehouse.Exchange

open Traced

variable {s : Settings} {routes : List Route} {c : Circumstances} {r : Request} {site : Tenant}

/-- The context of a request on its site. -/
def siteContext (s : Settings) (c : Circumstances) (r : Request) (site : Tenant) : Context :=
  { requestContext s c r with site := some site }

/-- The paths of the status probe and of what needs no site are those of the start. -/
structure DefaultPaths (s : Settings) : Prop where
  status : s.statusPath = Settings.initial.statusPath
  exempt : s.exemptPaths = Settings.initial.exemptPaths

/-! ### Which tenant -/

theorem of_tenant? (h : tenant? s c r = some site) :
    (∀ routes, serve s routes c r = underDeadline s routes c r (context c r)) ∧
      Dispatch.tenant? (requestContext s c r) r = some site := by
  unfold tenant? at h
  split at h
  · cases h
  · rename_i hother
    exact ⟨fun routes => by rw [serve, if_neg hother], h⟩

/-- A request with time left for a path that needs a site has the tenant that its host leads to. -/
theorem tenant?_eq (hp : r.path ≠ s.statusPath) (he : Dispatch.isExempt s r.path = false)
    (ht : ((Budgets.ofSettings s).choose r.path).isOver c.time = false) :
    tenant? s c r = (Tenant.resolve c.store s.prod r.host s.domain).outcome.toOption := by
  rw [tenant?_eq_hostSite? hp ht, hostSite?, if_neg (ne_true_of_eq_false he)]

theorem serves_siteContext {users : Users}
    (ht : ((Budgets.ofSettings s).choose r.path).isOver c.time = false)
    (hfaults : c.store.faults = fun _ => none) (husers : c.store.database.users = some users) :
    (siteContext s c r site).store.Serves users :=
  ⟨(faults_requestContext ht).trans hfaults, (congrArg _ database_requestContext).trans husers⟩

/-- Without time left such a request is answered by the guard. -/
theorem response_of_isOver (routes : List Route) (hp : r.path ≠ s.statusPath)
    (he : Dispatch.isExempt s r.path = false)
    (ht : ((Budgets.ofSettings s).choose r.path).isOver c.time = true) :
    (serve s routes c r).response = withId c r timedOut := by
  have hexempt : ¬Dispatch.isExempt (requestContext s c r).settings r.path = true :=
    ne_true_of_eq_false he
  have hresolve : (Tenant.resolve (requestContext s c r).store (requestContext s c r).settings.prod
      r.host (requestContext s c r).settings.domain).outcome = .error (.cancelled "") :=
    resolve_of_isOver ht
  have ho : (Dispatch.dispatch routes (requestContext s c r) c.wall r).outcome =
      .error (.cancelled "") := by
    unfold Dispatch.dispatch
    rw [if_neg hexempt, outcome_bind]
    simp only [Traced.attempt, hresolve]
    rfl
  rw [serve, if_neg (by simpa using hp)]
  exact response_of_cancelled ht ho

/-! ### What comes of a request on its site -/

/-- A request that its route answers is answered so. -/
theorem response_of_route (ht : tenant? s c r = some site) {answer : Response}
    (ho : (Dispatch.route routes (siteContext s c r site) c.wall r).outcome =
      .ok (.answer answer)) :
    (serve s routes c r).response = withId c r (lengthless answer) := by
  obtain ⟨hserve, htenant⟩ := of_tenant? ht
  have hact := act_dispatch_of_tenant htenant routes c.wall
  obtain ⟨loaded, hreaction⟩ := reaction_of_act (hact.trans ho)
  rw [hserve]
  exact (response_of_answer (not_isOver_of_tenant htenant) hreaction).1

theorem status_of_route_refused (ht : tenant? s c r = some site)
    (hr : Refused (Dispatch.route routes (siteContext s c r site) c.wall r).outcome) :
    (serve s routes c r).response.status ≠ 200 := by
  obtain ⟨hserve, htenant⟩ := of_tenant? ht
  rw [hserve]
  refine status_of_refused ?_
  rw [act_dispatch_of_tenant htenant]
  exact hr

/-- A request whose route fails, and not because it was cancelled, breaks down at once. -/
theorem response_of_route_failure (ht : tenant? s c r = some site) {f : Failure}
    (hf : f.isCancelled = false)
    (ho : (Dispatch.route routes (siteContext s c r site) c.wall r).outcome = .error f) :
    (serve s routes c r).response = .crash := by
  obtain ⟨hserve, htenant⟩ := of_tenant? ht
  have hact := (act_dispatch_of_tenant htenant routes c.wall).trans ho
  rw [hserve]
  cases e : (Dispatch.dispatch routes (requestContext s c r) c.wall r).outcome with
  | error g =>
    rw [e] at hact
    obtain rfl := Except.error.inj hact
    rw [underDeadline_of_failure hf e]
  | ok reaction =>
    rw [e] at hact
    cases hact

end Gatehouse.Exchange
