import Gatehouse.Proofs.Auth.Lookup
import Gatehouse.Proofs.Gateway.Delivery
import Gatehouse.Proofs.Gateway.TwoRuns

/-! # Tenants do not see each other's users

Two exchanges are compared whose stores differ in the users of other tenants only. Neither can tell
(`dispatch_alike`), so they are the same exchange (`serve_congr`).

The reason is that users are only asked for with the id of the site on the context. So a
principal on a context is one of its site (`Owned`), however the request has come to it: `Arises`
are the contexts of a request, and `owned_of_arises` says so of all of them. -/

namespace Gatehouse

open Traced

/-- The same circumstances with another table of users, or none. -/
def Circumstances.withUsers (c : Circumstances) (users : Option Users) : Circumstances :=
  { c with store := { c.store with database := { c.store.database with users } } }

namespace Exchange

theorem hurried_sameFor {plans : Bool} {a b : Store} {site : Option Int}
    (h : Store.SameFor plans site a b) (budget : Budget) (start : Rat) :
    Store.SameFor plans site (hurried budget start a) (hurried budget start b) := by
  unfold hurried
  split
  · exact ⟨rfl, h.explain, h.sites, h.users⟩
  · exact h

/-- Users of other tenants make no difference to an exchange. -/
theorem serve_congr (s : Settings) (routes : List Route) (c : Circumstances) (r : Request)
    (users : Option Users)
    (h : ∀ site ∈ tenant? s c r,
      c.store.database.usersOf site.id = users.map fun t => t.rowsOf site.id) :
    serve s routes (c.withUsers users) r = serve s routes c r := by
  unfold serve
  by_cases hp : (r.path == s.statusPath) = true
  · rw [if_pos hp, if_pos hp]
    rfl
  rw [if_neg hp, if_neg hp]
  have hstore :
      Store.SameFor true ((tenant? s c r).map Tenant.id) c.store (c.withUsers users).store := by
    refine ⟨rfl, fun _ => ⟨rfl, rfl⟩, rfl, fun id hid => ?_⟩
    obtain ⟨site, hsite, rfl⟩ := Option.map_eq_some_iff.1 hid
    exact h site hsite
  have hdispatch : Dispatch.dispatch routes (requestContext s c r) c.wall r =
      Dispatch.dispatch routes (requestContext s (c.withUsers users) r) c.wall r := by
    have hh := hurried_sameFor hstore ((Budgets.ofSettings s).choose r.path) c.time
    refine (dispatch_alike rfl rfl ?_ routes c.wall).eq
    rw [tenant?, if_neg hp] at hh
    exact ⟨hh.faults, fun h => ⟨rfl, (hh.explain h).2⟩, hh.sites, hh.users⟩
  unfold underDeadline
  have hwall : (c.withUsers users).wall = c.wall := rfl
  dsimp only
  rw [hwall, ← hdispatch]
  rfl

end Exchange

/-! ### Principals -/

/-- A principal on the context is one of its site. -/
def Context.Owned (ctx : Context) : Prop :=
  ∀ p ∈ ctx.user, ∃ site, ctx.site = some site ∧ p.siteId = site.id

theorem siteId_of_ofSession {ctx : Context} {now : Reading} {token : String} {p : Principal}
    (h : (Principal.ofSession ctx now token).outcome = .ok (some p)) :
    ∃ site, ctx.site = some site ∧ p.siteId = site.id := by
  unfold Principal.ofSession at h
  cases hs : ctx.site with
  | none =>
    rw [hs] at h
    cases h
  | some site =>
    rw [hs] at h
    dsimp only at h
    refine ⟨site, rfl, ?_⟩
    split at h
    · cases h
    · cases h
    · split at h
      · obtain ⟨row, hrow, hp⟩ := ofQuery_ok h
        obtain ⟨t, _, rfl⟩ := Store.ask_ok hrow
        obtain ⟨u, hu, rfl⟩ := Option.map_eq_some_iff.1 hp.symm
        exact Users.siteId_of_ofSite hu
      · cases h

theorem siteId_of_ofApiToken {ctx : Context} {p : Principal}
    (h : (Principal.ofApiToken ctx (ctx.credential.getD "")).outcome = .ok p) :
    ∃ site, ctx.site = some site ∧ p.siteId = site.id := by
  obtain ⟨row, hrow, rfl⟩ := Principal.ofApiToken_ok h
  obtain ⟨site, hsite, hid⟩ := Option.map_eq_some_iff.1 hrow.site
  exact ⟨site, hsite, hid.symm⟩

theorem owned_withBearer {ctx : Context} (h : ctx.Owned) (bearer : Option String) :
    (ctx.withBearer bearer).Owned := by
  rw [Context.withBearer_eq]
  exact h

theorem owned_identify {ctx ctx' : Context} (h : ctx.Owned) {now : Reading} {bearer : Option String}
    {cookies : List String} (ho : (ctx.identify now bearer cookies).outcome = .ok ctx') :
    ctx'.Owned := by
  have hb := owned_withBearer h bearer
  unfold Context.identify at ho
  generalize ctx.withBearer bearer = found at hb ho
  dsimp only at ho
  split at ho
  · obtain ⟨user, huser, ho⟩ := outcome_bind_ok.1 ho
    obtain rfl := Except.ok.inj ho
    intro p hp
    obtain rfl : user = some p := hp
    exact siteId_of_ofSession huser
  · obtain rfl := Except.ok.inj ho
    exact hb

theorem owned_filter {ctx ctx' : Context} (h : ctx.Owned) {check : Check}
    (ho : (check.filter ctx).outcome = .ok ctx') : ctx'.Owned := by
  have passIf : ∀ {ok rejection},
      (Check.passIf ok rejection ctx).outcome = .ok ctx' → ctx'.Owned := by
    intro ok rejection hp
    unfold Check.passIf at hp
    split at hp
    · obtain rfl := Except.ok.inj hp
      exact h
    · cases hp
  cases check with
  | loggedIn => exact passIf ho
  | loggedInOrPublic => exact passIf ho
  | noSubSites =>
    change (Check.refuseChild ctx).outcome = _ at ho
    unfold Check.refuseChild at ho
    split at ho
    · obtain rfl := Except.ok.inj ho
      exact h
    split at ho
    · obtain ⟨_, _, ho⟩ := outcome_bind_ok.1 ho
      cases ho
    · obtain rfl := Except.ok.inj ho
      exact h
  | adminOnly => exact passIf ho
  | keyAuth =>
    obtain ⟨user, huser, ho⟩ := outcome_bind_ok.1 ho
    obtain rfl := Except.ok.inj ho
    intro p hp
    obtain rfl : user = p := Option.some.inj hp
    exact siteId_of_ofApiToken huser

namespace Exchange

/-- The contexts of a request: before and after its site is loaded, after its caller has been looked
for, and after each filter that lets it through. -/
inductive Arises (s : Settings) (c : Circumstances) (r : Request) : Context → Prop
  | opened : Arises s c r (requestContext s c r)
  | sited {site : Tenant} (h : tenant? s c r = some site) :
    Arises s c r { requestContext s c r with site := some site }
  | identified {ctx ctx' : Context} (h : Arises s c r ctx)
    (ho : (ctx.identify c.wall r.bearer? r.cookies).outcome = .ok ctx') : Arises s c r ctx'
  | filtered {ctx ctx' : Context} (check : Check) (h : Arises s c r ctx)
    (ho : (check.filter ctx).outcome = .ok ctx') : Arises s c r ctx'

variable {s : Settings} {c : Circumstances} {r : Request}

theorem owned_of_arises {ctx : Context} (h : Arises s c r ctx) : ctx.Owned := by
  induction h with
  | opened => exact fun p hp => by cases hp
  | sited _ => exact fun p hp => by cases hp
  | identified _ ho ih => exact owned_identify ih ho
  | filtered _ _ ho ih => exact owned_filter ih ho

/-- **Tenants do not see each other's users.** An exchange stays the same, with its response, its
events and its explanations, if the table of users is replaced by any other with the same users of
the tenant that the request is for; if it is for none, by any other at all. And every principal
on a context of the request is a user of the site on that context. -/
theorem tenants_isolated (s : Settings) (routes : List Route) (c : Circumstances) (r : Request)
    (users : Option Users)
    (h : ∀ site ∈ tenant? s c r,
      c.store.database.usersOf site.id = users.map fun t => t.rowsOf site.id) :
    serve s routes (c.withUsers users) r = serve s routes c r ∧
      ∀ ctx, Arises s c r ctx →
        ∀ p ∈ ctx.user, ∃ site, ctx.site = some site ∧ p.siteId = site.id :=
  ⟨serve_congr s routes c r users h, fun _ ha => owned_of_arises ha⟩

/-- The user of another site is taken away, and the API of the first site answers as before. -/
theorem other_user_unseen :
    let sites : Sites := ⟨[⟨1, none, "a", some "a.org", false, false, .active⟩,
      ⟨2, none, "b", some "b.org", false, false, .active⟩], by decide, by decide⟩
    let both : Users := ⟨[⟨1, 1, "u@a.org", some "t"⟩, ⟨2, 2, "v@b.org", some "x"⟩],
      by decide, by decide⟩
    let one : Users := ⟨[⟨1, 1, "u@a.org", some "t"⟩], by decide, by decide⟩
    let store : Store := ⟨⟨some sites, some both⟩, fun _ => none, fun _ => [], none⟩
    let c : Circumstances := .sample store
    let r : Request :=
      ⟨"server", "GET", "/api/v0/me", "", [("host", "a.org"), ("authorization", "Bearer t")], ""⟩
    (tenant? .initial c r).map Tenant.id = some 1 ∧
      serve .initial Route.sample (c.withUsers (some one)) r =
        serve .initial Route.sample c r := by
  intro sites both one store c r
  have htenant : (tenant? .initial c r).map Tenant.id = some 1 := by decide +kernel
  have hsame : ∀ site ∈ tenant? .initial c r,
      c.store.database.usersOf site.id = (some one).map fun t => t.rowsOf site.id := by
    intro site hsite
    have hid : site.id = 1 := by
      rw [Option.mem_def.1 hsite] at htenant
      exact Option.some.inj htenant
    rw [hid]
    rfl
  exact ⟨htenant, (tenants_isolated .initial Route.sample c r (some one) hsame).1⟩

end Exchange

end Gatehouse
