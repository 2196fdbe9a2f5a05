import Gatehouse.Gateway.Exchange
import Gatehouse.Proofs.Store.Users

/-! # Two runs of a request

A request is run with two contexts that are the same but for the store, and every question about
the tables goes the same way in both stores, up to the failures that it may end with
(`Store.Corresponds`). If nothing looks at what tells these failures apart (`Opaque`), no step of
the request can tell: each leaves the same trace and ends in the same way, from the look-up of a
user (`ofSession_akin`, `ofApiToken_akin`) through the filters (`judge_akin`) to what becomes of the
whole request (`dispatch_akin`). If `plans` is not set then traces may differ in their explanations.
The two stores stay what they are all along.

Two stores that differ at most in the users of other sites, and in what they explain if `plans` is
not set, correspond with the same failures (`dispatch_alike`). -/

namespace Gatehouse

open Traced

/-! ### The tenant of a request -/

namespace Dispatch

/-- The site that a request is for, unless its path needs none or there is no such site. -/
def tenant? (ctx : Context) (r : Request) : Option Tenant :=
  if isExempt ctx.settings r.path then none
  else (Tenant.resolve ctx.store ctx.settings.prod r.host ctx.settings.domain).outcome.toOption

theorem tenant?_eq_some {ctx : Context} {r : Request} {site : Tenant} :
    tenant? ctx r = some site ↔ isExempt ctx.settings r.path = false ∧
      (Tenant.resolve ctx.store ctx.settings.prod r.host ctx.settings.domain).outcome =
        .ok site := by
  unfold tenant?
  cases isExempt ctx.settings r.path with
  | true => simp
  | false =>
    rw [if_neg Bool.false_ne_true]
    cases (Tenant.resolve ctx.store ctx.settings.prod r.host ctx.settings.domain).outcome with
    | ok found => simp [Except.toOption]
    | error f => simp [Except.toOption]

end Dispatch

namespace Exchange

/-- The status probe is answered without a site. -/
def tenant? (s : Settings) (c : Circumstances) (r : Request) : Option Tenant :=
  if r.path == s.statusPath then none else Dispatch.tenant? (requestContext s c r) r

end Exchange

/-! ### The look-up of a user -/

namespace Context

theorem withBearer_eq (ctx : Context) (bearer : Option String) :
    ctx.withBearer bearer =
      { ctx with credential := (bearer.filter fun s => !s.isEmpty).or ctx.credential } := by
  unfold withBearer
  cases bearer with
  | none => rfl
  | some s => cases h : s.isEmpty <;> simp [Option.filter_some, h]

/-- The same context with one store and with another, which holds the same users of the site. -/
structure SameFor (plans : Bool) (x y : Store) (a b : Context) : Prop where
  store : a.store = x
  rest : b = { a with store := y }
  same : Store.SameFor plans (a.site.map Tenant.id) x y

end Context

/-! ### Failures that nothing tells apart -/

/-- What a failure is to those who answer or log it depends on nothing but what failures that stand
in `E` have in common. -/
structure Opaque (E : Failure → Failure → Prop) : Prop where
  refl : ∀ f, E f f
  name : ∀ {f g}, E f g → f.name = g.name
  database : ∀ {f g}, E f g → f.isDatabase = g.isDatabase
  lookup : ∀ {f g}, E f g → E (.gateway (.lookupFailed f.text)) (.gateway (.lookupFailed g.text))
  answer : ∀ {f g}, E f g → ∀ s,
    EndAlike E Eq (Dispatch.answerError s f) (Dispatch.answerError s g)
  outside : ∀ {f g}, E f g → ∀ plans s host,
    Akin E plans Eq (Dispatch.withoutSite s host f) (Dispatch.withoutSite s host g)

theorem opaque_eq : Opaque Eq where
  refl _ := rfl
  name h := h ▸ rfl
  database h := h ▸ rfl
  lookup h := h ▸ rfl
  answer {f g} h s := by
    subst h
    cases Dispatch.answerError s f with
    | ok a => exact .ok rfl
    | error f => exact .error rfl
  outside h _ _ _ := h ▸ .refl (fun _ => rfl) _

/-- Every question goes the same way in both stores; those about users do for the users of the site,
if there is one. -/
structure Store.Corresponds (E : Failure → Failure → Prop) (plans : Bool) (site : Option Int)
    (x y : Store) : Prop where
  siteByHost : ∀ host domain,
    Akin E plans Eq (x.siteByHost host domain) (y.siteByHost host domain)
  activeSites : Akin E plans Eq x.activeSites y.activeSites
  activeCount : Akin E plans Eq x.activeCount y.activeCount
  userOfSite : ∀ id ∈ site, ∀ userId,
    Akin E plans Eq (x.userOfSite userId id) (y.userOfSite userId id)
  userByToken : ∀ id ∈ site, ∀ token,
    Akin E plans Eq (x.userByToken token id) (y.userByToken token id)

theorem Store.Corresponds.weaken {E : Failure → Failure → Prop} {plans : Bool}
    {site : Option Int} {x y : Store} (h : Store.Corresponds E plans site x y) :
    Store.Corresponds E plans none x y :=
  ⟨h.siteByHost, h.activeSites, h.activeCount, nofun, nofun⟩

theorem Store.SameFor.corresponds {plans : Bool} {site : Option Int} {x y : Store}
    (h : Store.SameFor plans site x y) : Store.Corresponds Eq plans site x y where
  siteByHost host domain := .of_alike (h.siteByHost host domain)
  activeSites := .of_alike h.activeSites
  activeCount := .of_alike h.activeCount
  userOfSite _ hid userId := .of_alike ((Option.mem_def.1 hid ▸ h).userOfSite userId)
  userByToken _ hid token := .of_alike ((Option.mem_def.1 hid ▸ h).userByToken token)

/-- The same context with one store and with another. -/
structure Context.Paired (site : Option Int) (x y : Store) (a b : Context) : Prop where
  store : a.store = x
  rest : b = { a with store := y }
  site : a.site.map Tenant.id = site

section

variable {E : Failure → Failure → Prop} {plans : Bool} {site : Option Int} {x y : Store}
  {a b : Context}

namespace Context.Paired

theorem other (h : Context.Paired site x y a b) : b.store = y := by rw [h.rest]

theorem sameSite (h : Context.Paired site x y a b) : b.site = a.site := by rw [h.rest]

theorem user (h : Context.Paired site x y a b) : b.user = a.user := by rw [h.rest]

theorem credential (h : Context.Paired site x y a b) : b.credential = a.credential := by
  rw [h.rest]

theorem settings (h : Context.Paired site x y a b) : b.settings = a.settings := by rw [h.rest]

theorem wait (h : Context.Paired site x y a b) : b.wait = a.wait := by rw [h.rest]; rfl

theorem mem {t : Tenant} (h : Context.Paired site x y a b) (ht : a.site = some t) :
    t.id ∈ site := by
  rw [← h.site, ht]
  rfl

theorem withUser (h : Context.Paired site x y a b) (user : Option Principal) :
    Context.Paired site x y { a with user } { b with user } :=
  ⟨h.store, by rw [h.rest], h.site⟩

theorem withBearer (h : Context.Paired site x y a b) (bearer : Option String) :
    Context.Paired site x y (a.withBearer bearer) (b.withBearer bearer) := by
  rw [Context.withBearer_eq, Context.withBearer_eq]
  exact ⟨h.store, by rw [h.rest], h.site⟩

end Context.Paired

/-! ### The look-up of a user -/

theorem ofExcept_akin {R : α → β → Prop} {v : Except Failure α} {w : Except Failure β}
    (h : EndAlike E R v w) : Akin E plans R (Traced.ofExcept v) (Traced.ofExcept w) :=
  ⟨.refl _, h⟩

theorem ofQuery_akin (hE : Opaque E) {v w : Traced (Option UserRow)} (h : Akin E plans Eq v w) :
    Akin E plans Eq (Principal.ofQuery v) (Principal.ofQuery w) := by
  refine h.attempt.bind ?_
  rintro _ _ (hrow | hf)
  · exact hrow ▸ .refl hE.refl _
  · rename_i f g
    dsimp only
    rw [← hE.database hf]
    split
    · rw [Event.failureField, Event.failureField, ← hE.name hf]
      exact .bind_same (.refl hE.refl _) fun _ => .fail (hE.lookup hf)
    · exact .fail hf

theorem ofSession_akin (hE : Opaque E) (hc : Store.Corresponds E plans site x y)
    (h : Context.Paired site x y a b) (now : Reading) (token : String) :
    Akin E plans Eq (Principal.ofSession a now token) (Principal.ofSession b now token) := by
  unfold Principal.ofSession
  rw [h.sameSite, h.settings, h.store, h.other]
  cases hs : a.site with
  | none => exact .refl hE.refl _
  | some t =>
    dsimp only
    split
    · exact .refl hE.refl _
    · exact .refl hE.refl _
    · split
      · exact ofQuery_akin hE (hc.userOfSite _ (h.mem hs) _)
      · exact .refl hE.refl _

theorem ofApiToken_akin (hE : Opaque E) (hc : Store.Corresponds E plans site x y)
    (h : Context.Paired site x y a b) (token : String) :
    Akin E plans Eq (Principal.ofApiToken a token) (Principal.ofApiToken b token) := by
  unfold Principal.ofApiToken
  rw [h.sameSite, h.store, h.other]
  split
  · exact .refl hE.refl _
  · cases hs : a.site with
    | none => exact .refl hE.refl _
    | some t =>
      exact .bind_same (ofQuery_akin hE (hc.userByToken _ (h.mem hs) token))
        fun _ => .refl hE.refl _

theorem identify_akin (hE : Opaque E) (hc : Store.Corresponds E plans site x y)
    (h : Context.Paired site x y a b) (now : Reading) (bearer : Option String)
    (cookies : List String) :
    Akin E plans (Context.Paired site x y) (a.identify now bearer cookies)
      (b.identify now bearer cookies) := by
  have hb := h.withBearer bearer
  unfold Context.identify
  generalize a.withBearer bearer = a', b.withBearer bearer = b' at hb
  dsimp only
  have htoken : b'.sessionToken? cookies = a'.sessionToken? cookies := by
    rw [Context.sessionToken?, Context.sessionToken?, hb.settings]
  rw [hb.user, htoken]
  split
  · exact .bind_same (ofSession_akin hE hc hb now _) fun user => .succeed (hb.withUser user)
  · exact .succeed hb

/-! ### Filters -/

theorem filter_akin (hE : Opaque E) (hc : Store.Corresponds E plans site x y)
    (h : Context.Paired site x y a b) (check : Check) :
    Akin E plans (Context.Paired site x y) (check.filter a) (check.filter b) := by
  have passIf : ∀ ok rejection, Akin E plans (Context.Paired site x y)
      (Check.passIf ok rejection a) (Check.passIf ok rejection b) := by
    intro ok rejection
    unfold Check.passIf
    split
    · exact .succeed h
    · exact .fail (hE.refl rejection)
  cases check with
  | loggedIn =>
    show Akin _ _ _ (Check.passIf a.isSignedIn (Check.signIn a) a)
      (Check.passIf b.isSignedIn _ b)
    rw [Context.isSignedIn, Context.isSignedIn, h.user, Check.signIn, Check.signIn, h.settings]
    exact passIf _ _
  | loggedInOrPublic =>
    show Akin _ _ _ (Check.passIf (a.isSignedIn || Check.isPublic a) (Check.signIn a) a)
      (Check.passIf (b.isSignedIn || Check.isPublic b) (Check.signIn b) b)
    rw [Context.isSignedIn, Context.isSignedIn, h.user, Check.isPublic, Check.isPublic,
      h.sameSite, Check.signIn, Check.signIn, h.settings]
    exact passIf _ _
  | noSubSites =>
    show Akin _ _ _ (Check.refuseChild a) (Check.refuseChild b)
    unfold Check.refuseChild
    rw [h.sameSite]
    cases a.site with
    | none => exact .succeed h
    | some t =>
      dsimp only
      split
      · exact .bind_same (.refl hE.refl _) fun _ => .fail (hE.refl _)
      · exact .succeed h
  | adminOnly =>
    show Akin _ _ _ (Check.passIf (Check.isAdmin a) _ a) (Check.passIf (Check.isAdmin b) _ b)
    rw [Check.isAdmin, Check.isAdmin, h.sameSite]
    exact passIf _ _
  | keyAuth =>
    show Akin _ _ _ (Check.authenticate a) (Check.authenticate b)
    have htoken : b.credential.getD "" = a.credential.getD "" := by rw [h.credential]
    unfold Check.authenticate
    rw [htoken]
    exact .bind_same (ofApiToken_akin hE hc h _) fun user => .succeed (h.withUser (some user))

/-- The same but for the stores and the failures. -/
structure Judgement.Paired (E : Failure → Failure → Prop) (site : Option Int) (x y : Store)
    (i j : Judgement) : Prop where
  context : Context.Paired site x y i.context j.context
  evaluated : i.evaluated = j.evaluated
  rejection : Option.Rel E i.rejection j.rejection

theorem judge_akin (hE : Opaque E) (hc : Store.Corresponds E plans site x y)
    (checks : List Check) (h : Context.Paired site x y a b) :
    Akin E plans (Judgement.Paired E site x y) (Filter.judge (checks.map Check.filter) a)
      (Filter.judge (checks.map Check.filter) b) := by
  induction checks generalizing a b with
  | nil => exact .succeed ⟨h, rfl, .none⟩
  | cons check rest ih =>
    refine (filter_akin hE hc h check).attempt.bind ?_
    rintro _ _ (hctx | hf)
    · refine (ih hctx).bind fun i j hij => .succeed ?_
      exact ⟨hij.context, congrArg (· + 1) hij.evaluated, hij.rejection⟩
    · exact .succeed ⟨h, rfl, .some hf⟩

theorem chain_akin (hE : Opaque E) (hc : Store.Corresponds E plans site x y)
    (checks : List Check) (h : Context.Paired site x y a b) :
    Akin E plans (Context.Paired site x y) (Filter.chain (checks.map Check.filter) a)
      (Filter.chain (checks.map Check.filter) b) := by
  refine (judge_akin hE hc checks h).bind ?_
  rintro ⟨i, _, rejection⟩ ⟨j, _, rejection'⟩ ⟨hij, _, hr⟩
  cases hr with
  | none => exact .succeed hij
  | some hf => exact .fail hf

/-! ### Endpoints -/

theorem pass_akin (hE : Opaque E) (hc : Store.Corresponds E plans site x y)
    (h : Context.Paired site x y a b) (checks : List Check) (now : Reading) (r : Request) :
    Akin E plans (Context.Paired site x y) (Page.pass checks a now r)
      (Page.pass checks b now r) :=
  (identify_akin hE hc h now r.bearer? r.cookies).bind fun _ _ h' => chain_akin hE hc checks h'

theorem respond_akin (hE : Opaque E) (hc : Store.Corresponds E plans site x y)
    (h : Context.Paired site x y a b) (checks : List Check) (now : Reading) (r : Request) :
    Akin E plans Eq (Page.respond checks a now r) (Page.respond checks b now r) := by
  refine (pass_akin hE hc h checks now r).bind fun a' b' h' => .succeed ?_
  rw [Page.summary, Page.summary, h'.sameSite, h'.user]

theorem ready_akin (hE : Opaque E) (hc : Store.Corresponds E plans site x y)
    (h : Context.Paired site x y a b) : Akin E plans Eq (Probe.ready a) (Probe.ready b) := by
  unfold Probe.ready
  rw [h.store, h.other]
  refine hc.activeCount.attempt.bind ?_
  rintro _ _ (hcount | hf)
  · exact hcount ▸ .refl hE.refl _
  · dsimp only
    rw [← hE.database hf]
    split
    · rw [Event.failureField, Event.failureField, ← hE.name hf]
      exact .refl hE.refl _
    · exact .fail hf

theorem signIn_akin (hE : Opaque E) (hc : Store.Corresponds E plans site x y)
    (h : Context.Paired site x y a b) (now : Reading) (userId : Int) :
    Akin E plans Eq (DevSession.signIn a now userId) (DevSession.signIn b now userId) := by
  unfold DevSession.signIn
  rw [h.settings, h.sameSite, h.store, h.other]
  cases a.settings.prod with
  | true => exact .refl hE.refl _
  | false =>
    cases hs : a.site with
    | none => exact .refl hE.refl _
    | some t =>
      exact .bind_same (hc.userOfSite _ (h.mem hs) userId) fun _ => .refl hE.refl _

theorem act_akin (hE : Opaque E) (hc : Store.Corresponds E plans site x y)
    (h : Context.Paired site x y a b) (e : Endpoint) (now : Reading) (r : Request) :
    Akin E plans Eq (Dispatch.act e a now r) (Dispatch.act e b now r) := by
  cases e with
  | live => exact .refl hE.refl _
  | ready => exact .bind_same (ready_akin hE hc h) fun _ => .refl hE.refl _
  | devSession =>
    refine .bind_same ?_ fun _ => .refl hE.refl _
    unfold DevSession.respond
    rw [h.wait]
    refine .bind_same (.refl hE.refl _) fun _ => ?_
    split
    · exact .refl hE.refl _
    · exact signIn_akin hE hc h now _
  | page checks =>
    exact .bind_same (respond_akin hE hc h checks now r) fun _ => .refl hE.refl _
  | documentation contentType text => exact .refl hE.refl _
  | timed script => exact .refl hE.refl _

theorem route_akin (hE : Opaque E) (hc : Store.Corresponds E plans site x y)
    (h : Context.Paired site x y a b) (routes : List Route) (now : Reading) (r : Request) :
    Akin E plans Eq (Dispatch.route routes a now r) (Dispatch.route routes b now r) := by
  unfold Dispatch.route
  split
  · rw [h.settings]
    refine (act_akin hE hc h _ now r).rescue fun f g hf => ?_
    exact ofExcept_akin ((hE.answer hf a.settings).map fun _ _ => congrArg Act.answer)
  · exact .refl hE.refl _
  · exact .refl hE.refl _
  · exact .refl hE.refl _

/-! ### The whole request -/

theorem resolve_akin (hE : Opaque E) (hc : Store.Corresponds E plans site x y) (prod : Bool)
    (host domain : String) :
    Akin E plans Eq (Tenant.resolve x prod host domain) (Tenant.resolve y prod host domain) := by
  have honly : Akin E plans Eq (Tenant.only x) (Tenant.only y) := by
    refine hc.activeSites.attempt.bind ?_
    rintro _ _ (hrows | hf)
    · exact hrows ▸ .refl hE.refl _
    · dsimp only
      rw [← hE.database hf]
      split
      · rw [Event.failureField, Event.failureField, ← hE.name hf]
        exact .refl hE.refl _
      · exact .fail hf
  have hsettle : ∀ {found found'}, EndAlike E Eq found found' →
      Akin E plans Eq (Tenant.settle host found) (Tenant.settle host found') := by
    rintro _ _ (hrow | hf)
    · exact hrow ▸ .refl hE.refl _
    · simp only [Tenant.settle, Event.failureField, ← hE.name hf]
      exact .bind_same (.refl hE.refl _) fun _ => .fail (hE.lookup hf)
  have hnext : ∀ {found found'}, EndAlike E Eq found found' →
      Akin E plans Eq (Tenant.settleOrOnly x host found)
        (Tenant.settleOrOnly y host found') := by
    intro found found' hfound
    cases hfound with
    | ok h =>
      refine Akin.bind_same honly fun row => ?_
      cases row with
      | some r => exact .refl hE.refl _
      | none => exact hsettle (.ok h)
    | error h =>
      refine Akin.bind_same (.refl hE.refl _) fun _ => Akin.bind_same honly fun row => ?_
      cases row with
      | some r => exact .refl hE.refl _
      | none => exact hsettle (.error h)
  refine (hc.siteByHost host domain).attempt.bind ?_
  intro found found' hfound
  have hmode : Akin E plans Eq
      (if prod then Tenant.settle host found else Tenant.settleOrOnly x host found)
      (if prod then Tenant.settle host found' else Tenant.settleOrOnly y host found') := by
    split
    · exact hsettle hfound
    · exact hnext hfound
  cases hfound with
  | ok _ => exact hmode
  | error hf =>
    dsimp only
    rw [← hE.database hf]
    split
    · exact hmode
    · exact .fail hf

/-- A request that begins with two stores that correspond for the tenant of the request. -/
theorem dispatch_akin (hE : Opaque E) {r : Request} (ha : a.site = none)
    (hb : b = { a with store := b.store })
    (hc : Store.Corresponds E plans ((Dispatch.tenant? a r).map Tenant.id) a.store b.store)
    (routes : List Route) (now : Reading) :
    Akin E plans Eq (Dispatch.dispatch routes a now r) (Dispatch.dispatch routes b now r) := by
  have hsettings : b.settings = a.settings := by rw [hb]
  unfold Dispatch.dispatch
  rw [hsettings]
  split
  · have hstart : Context.Paired none a.store b.store a b := ⟨rfl, hb, by rw [ha]; rfl⟩
    exact .bind_same (route_akin hE hc.weaken hstart routes now r) fun _ => .refl hE.refl _
  · rename_i hexempt
    have hresolve := resolve_akin hE hc a.settings.prod r.host a.settings.domain
    rw [Dispatch.tenant?, if_neg hexempt] at hc
    generalize Tenant.resolve a.store a.settings.prod r.host a.settings.domain = v,
      Tenant.resolve b.store a.settings.prod r.host a.settings.domain = w at hc hresolve
    obtain ⟨outcome, effects⟩ := v
    obtain ⟨outcome', effects'⟩ := w
    obtain ⟨trace, ho⟩ := hresolve
    cases ho with
    | error hf =>
      refine Akin.after trace ?_
      exact .bind_same (hE.outside hf _ _ _) fun _ => .refl hE.refl _
    | ok hsite =>
      subst hsite
      rename_i t
      have hon : Context.Paired (some t.id) a.store b.store { a with site := some t }
          { b with site := some t } := ⟨rfl, by rw [hb], rfl⟩
      refine Akin.after trace (Akin.bound _ ?_)
      exact .bind_same (route_akin hE hc hon routes now r) fun _ => .refl hE.refl _

end

/-! ### The same users of a site -/

section

variable {plans : Bool} {x y : Store} {a b : Context}

namespace Context

theorem SameFor.paired (h : SameFor plans x y a b) :
    Paired (a.site.map Tenant.id) x y a b :=
  ⟨h.store, h.rest, rfl⟩

theorem Paired.sameFor {site : Option Int} {a' b' : Context} (h : Paired site x y a' b')
    (hs : Store.SameFor plans site x y) : SameFor plans x y a' b' :=
  ⟨h.store, h.rest, h.site ▸ hs⟩

theorem SameFor.site (h : SameFor plans x y a b) : b.site = a.site := h.paired.sameSite

theorem SameFor.user (h : SameFor plans x y a b) : b.user = a.user := h.paired.user

theorem SameFor.credential (h : SameFor plans x y a b) : b.credential = a.credential :=
  h.paired.credential

theorem SameFor.settings (h : SameFor plans x y a b) : b.settings = a.settings :=
  h.paired.settings

theorem SameFor.withBearer (h : SameFor plans x y a b) (bearer : Option String) :
    SameFor plans x y (a.withBearer bearer) (b.withBearer bearer) :=
  (h.paired.withBearer bearer).sameFor h.same

end Context

theorem identify_alike (h : Context.SameFor plans x y a b) (now : Reading) (bearer : Option String)
    (cookies : List String) :
    Alike plans (Context.SameFor plans x y) (a.identify now bearer cookies)
      (b.identify now bearer cookies) :=
  ((identify_akin opaque_eq h.same.corresponds h.paired now bearer cookies).mono
    fun _ _ h' => h'.sameFor h.same).alike

theorem filter_alike (h : Context.SameFor plans x y a b) (check : Check) :
    Alike plans (Context.SameFor plans x y) (check.filter a) (check.filter b) :=
  ((filter_akin opaque_eq h.same.corresponds h.paired check).mono
    fun _ _ h' => h'.sameFor h.same).alike

theorem resolve_alike {a b : Store} {site : Option Int} (h : Store.SameFor plans site a b)
    (prod : Bool) (host domain : String) :
    Alike plans Eq (Tenant.resolve a prod host domain) (Tenant.resolve b prod host domain) :=
  (resolve_akin opaque_eq h.corresponds prod host domain).alike

/-- A request that begins with two stores that are the same for the tenant of the request. -/
theorem dispatch_alike {r : Request} (ha : a.site = none) (hb : b = { a with store := b.store })
    (h : Store.SameFor plans ((Dispatch.tenant? a r).map Tenant.id) a.store b.store)
    (routes : List Route) (now : Reading) :
    Alike plans Eq (Dispatch.dispatch routes a now r) (Dispatch.dispatch routes b now r) :=
  (dispatch_akin opaque_eq ha hb h.corresponds routes now).alike

end

end Gatehouse
