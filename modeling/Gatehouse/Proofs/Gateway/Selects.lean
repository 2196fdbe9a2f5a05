import Gatehouse.Proofs.Gateway.Delivery
import Gatehouse.Proofs.Gateway.TwoRuns

/-! # The queries of a request

`Exchange.selects` are the queries that a request comes to the plan of, in the order in which they
are asked. They are written down along the way of the request and of a store that explains nothing:
first the site is looked for, then the user of the session, then the user of the API token.

Main statement: what an exchange explains are those of its queries that the text of its explain
cookie occurs in, if it has one that counts (`explanations_serve`). Each step of the request has
such a statement of its own, and `explanations_bind` puts them together. -/

namespace Gatehouse

open Traced

/-- A query, with the ids that are bound to its statement. -/
inductive Select
  /-- By the code of the site, too. -/
  | siteByHost (byCode : Bool)
  | activeSites
  | activeCount
  | userOfSite (userId siteId : Int)
  | userByToken (siteId : Int)
  deriving DecidableEq, Repr

namespace Select

def question : Select → Question
  | siteByHost _ => .siteByHost
  | activeSites => .activeSites
  | activeCount => .activeCount
  | userOfSite _ _ => .userOfSite
  | userByToken _ => .userByToken

def bounds : Select → List Int
  | userOfSite userId siteId => [userId, siteId]
  | userByToken siteId => [siteId]
  | _ => []

/-- Whether the table of the query is there. -/
def hasTable (db : Database) : Select → Bool
  | userOfSite _ _ | userByToken _ => db.users.isSome
  | _ => db.sites.isSome

/-- The statement. -/
def sql : Select → String
  | siteByHost true =>
    "SELECT sites.id, sites.parent, sites.code, sites.cname, sites.public, sites.admin, " ++
    "sites.state, sites.created_at \nFROM sites \n" ++
    "WHERE (sites.cname = ? OR sites.code = ?) AND sites.state = ?\n LIMIT ? OFFSET ?"
  | siteByHost false =>
    "SELECT sites.id, sites.parent, sites.code, sites.cname, sites.public, sites.admin, " ++
    "sites.state, sites.created_at \nFROM sites \n" ++
    "WHERE sites.cname = ? AND sites.state = ?\n LIMIT ? OFFSET ?"
  | activeSites =>
    "SELECT sites.id, sites.parent, sites.code, sites.cname, sites.public, sites.admin, " ++
    "sites.state, sites.created_at \nFROM sites \nWHERE sites.state = ? ORDER BY sites.id"
  | activeCount => "SELECT count(*) AS count_1 \nFROM sites \nWHERE sites.state = ?"
  | userOfSite _ _ =>
    "SELECT users.id, users.site_id, users.email, users.api_token, users.created_at \n" ++
    "FROM users \nWHERE users.id = ? AND users.site_id = ?"
  | userByToken _ =>
    "SELECT users.id, users.site_id, users.email, users.api_token, users.created_at \n" ++
    "FROM users \nWHERE users.api_token = ? AND users.site_id = ?"

end Select

namespace Store

/-- The query, if it comes to its plan: it does not fail before, its table is there, and its ids fit
their columns. -/
def runs (st : Store) (q : Select) : List Select :=
  if (st.faults q.question).isNone && q.hasTable st.database && q.bounds.all fitsColumn then [q]
  else []

/-- What the store explains of the queries: the statements that are explained, with their plans. -/
def shown (st : Store) (queries : List Select) : List Explanation :=
  ((queries.map Select.sql).filter st.explains).map fun sql => ⟨sql, st.plan sql⟩

end Store

/-! ### The steps of a request -/

/-- What comes next, if the work ends with a value. -/
def Traced.onward (x : Traced α) (next : α → List Select) : List Select :=
  match x.outcome with
  | .ok a => next a
  | .error _ => []

/-- The fallback is asked for outside production, unless looking for the host has failed in a way
that ends the request. -/
def Tenant.selects (st : Store) (prod : Bool) (host domain : String) : List Select :=
  let found := (st.siteByHost host domain).outcome
  let goesOn := match found with
    | .ok _ => true
    | .error f => f.isDatabase
  st.runs (.siteByHost (Sites.codeOfHost? host domain).isSome) ++
    if !prod && goesOn then st.runs .activeSites else []

namespace Principal

def selectsOfSession (ctx : Context) (now : Reading) (token : String) : List Select :=
  match ctx.site, SessionToken.decode (.ofSettings ctx.settings) token now with
  | some site, .ok claims =>
    if claims.siteId = site.id then ctx.store.runs (.userOfSite claims.userId site.id) else []
  | _, _ => []

def selectsOfApiToken (ctx : Context) (token : String) : List Select :=
  match ctx.site with
  | some site => if token.isEmpty then [] else ctx.store.runs (.userByToken site.id)
  | none => []

end Principal

/-- The session is followed only while no user is known. -/
def Context.selects (ctx : Context) (now : Reading) (cookies : List String) : List Select :=
  match ctx.user, ctx.sessionToken? cookies with
  | none, some token => Principal.selectsOfSession ctx now token
  | _, _ => []

def Check.selects (check : Check) (ctx : Context) : List Select :=
  match check with
  | .keyAuth => Principal.selectsOfApiToken ctx (ctx.credential.getD "")
  | _ => []

def Filter.selects : List Check → Context → List Select
  | [], _ => []
  | check :: rest, ctx => check.selects ctx ++ (check.filter ctx).onward (selects rest)

def Page.selects (checks : List Check) (ctx : Context) (now : Reading) (r : Request) :
    List Select :=
  ctx.selects now r.cookies ++
    (ctx.identify now r.bearer? r.cookies).onward (Filter.selects checks)

def DevSession.selects (ctx : Context) (r : Request) : List Select :=
  match ctx.rushed, readUserId r, ctx.settings.prod, ctx.site with
  | false, .ok userId, false, some site => ctx.store.runs (.userOfSite userId site.id)
  | _, _, _, _ => []

namespace Dispatch

def selectsOfEndpoint (e : Endpoint) (ctx : Context) (now : Reading) (r : Request) : List Select :=
  match e with
  | .ready => ctx.store.runs .activeCount
  | .devSession => DevSession.selects ctx r
  | .page checks => Page.selects checks ctx now r
  | _ => []

def selectsOfRoute (routes : List Route) (ctx : Context) (now : Reading) (r : Request) :
    List Select :=
  match Route.find routes r.method r.path with
  | .found e => selectsOfEndpoint e ctx now r
  | _ => []

def selects (routes : List Route) (ctx : Context) (now : Reading) (r : Request) : List Select :=
  if isExempt ctx.settings r.path then selectsOfRoute routes ctx now r
  else
    Tenant.selects ctx.store ctx.settings.prod r.host ctx.settings.domain ++
      (Tenant.resolve ctx.store ctx.settings.prod r.host ctx.settings.domain).onward fun site =>
        selectsOfRoute routes { ctx with site := some site } now r

end Dispatch

namespace Exchange

/-- The context of a request whose store explains nothing. -/
def plainContext (s : Settings) (c : Circumstances) (r : Request) : Context :=
  { requestContext s c r with store := (requestContext s c r).store.plain }

/-- The queries that a request comes to the plan of. -/
def selects (s : Settings) (routes : List Route) (c : Circumstances) (r : Request) :
    List Select :=
  if r.path == s.statusPath then [] else Dispatch.selects routes (plainContext s c r) c.wall r

/-- What is to be explained of a request: nothing in production or without the cookie, and otherwise
each of its queries that the text of the cookie occurs in, with the plan of the database. -/
def due (s : Settings) (routes : List Route) (c : Circumstances) (r : Request) :
    List Explanation :=
  match s.prod, Cookie.find? r.cookies s.explainCookie with
  | false, some part =>
    (((selects s routes c r).map Select.sql).filter fun sql =>
      Text.occursIn part.toList sql.toList).map fun sql => ⟨sql, c.store.plan sql⟩
  | _, _ => []

end Exchange

/-! ### Explanations of composed work -/

section

variable {st : Store}

@[simp] theorem Store.shown_nil : st.shown [] = [] := rfl

theorem Store.shown_append (l m : List Select) : st.shown (l ++ m) = st.shown l ++ st.shown m := by
  simp [Store.shown]

theorem explanations_andThen (v : Traced α) (f : α → Traced β) :
    (v >>= f).explanations = v.explanations ++
      match v.outcome with
      | .ok a => (f a).explanations
      | .error _ => [] := by
  show (andThen v f).explanations = _
  unfold andThen
  cases v.outcome with
  | ok a => simp [explanations]
  | error e => simp [explanations]

/-- Work goes on from a first piece that is like the first piece of a plain run. -/
theorem explanations_bind {v : Traced α} {w : Traced β} {R : α → β → Prop} {f : α → Traced γ}
    {l : List Select} {next : β → List Select} (h : Alike false R v w)
    (hv : v.explanations = st.shown l)
    (hf : ∀ a b, R a b → (f a).explanations = st.shown (next b)) :
    (v >>= f).explanations = st.shown (l ++ w.onward next) := by
  rw [explanations_andThen, hv, Store.shown_append]
  cases h with
  | ok _ hab => exact congrArg _ (hf _ _ hab)
  | error f _ => rfl

theorem explanations_before {v : Traced α} {f : α → Traced β} (hf : ∀ a, (f a).explanations = []) :
    (v >>= f).explanations = v.explanations := by
  rw [explanations_andThen]
  cases v.outcome with
  | ok a => simp [hf]
  | error e => simp

theorem explanations_rescue {v : Traced α} {handler : Failure → Traced α}
    (h : ∀ f, (handler f).explanations = []) :
    (v.rescue handler).explanations = v.explanations := by
  unfold Traced.rescue
  cases v.outcome with
  | ok a => rfl
  | error e =>
    have he := h e
    simp only [explanations] at he ⊢
    rw [List.filterMap_append, he, List.append_nil]

theorem explanations_bound (v : Traced α) (fields : Fields) :
    (v.bound fields).explanations = v.explanations := by
  unfold Traced.bound explanations
  dsimp only
  rw [List.filterMap_map]
  congr 1
  funext e
  cases e <;> rfl

/-! ### Questions -/

theorem isOk_sitesTable (db : Database) : db.sitesTable.isOk = db.sites.isSome := by
  unfold Database.sitesTable
  cases db.sites <;> rfl

theorem isOk_usersTable (db : Database) : db.usersTable.isOk = db.users.isSome := by
  unfold Database.usersTable
  cases db.users <;> rfl

theorem explanations_ask {q : Select} {table : Except Failure τ} {answer : τ → α}
    (ht : table.isOk = q.hasTable st.database) :
    (st.ask q.question q.sql table q.bounds answer).explanations =
      st.shown (st.runs q) := by
  unfold Store.ask Store.runs
  cases st.faults q.question with
  | some f => rfl
  | none =>
    cases table with
    | error f =>
      rw [← ht]
      rfl
    | ok t =>
      rw [← ht]
      cases q.bounds.all fitsColumn with
      | false => rfl
      | true =>
        by_cases he : st.explains q.sql = true
        · simp [he, Store.shown, explanations, Except.isOk, Except.toBool]
        · simp [he, Store.shown, explanations, Except.isOk, Except.toBool, succeed]

theorem hostStatement_eq (byCode : Bool) :
    Store.hostStatement byCode = (Select.siteByHost byCode).sql := by
  cases byCode <;> decide +kernel

theorem explanations_siteByHost (host domain : String) :
    (st.siteByHost host domain).explanations =
      st.shown (st.runs (.siteByHost (Sites.codeOfHost? host domain).isSome)) := by
  unfold Store.siteByHost
  rw [hostStatement_eq]
  exact explanations_ask (q := .siteByHost _) (isOk_sitesTable _)

theorem explanations_activeSites :
    st.activeSites.explanations = st.shown (st.runs .activeSites) := by
  have hsql : Sites.siteColumns ++ "sites.state = ? ORDER BY sites.id" =
      Select.activeSites.sql := by
    decide +kernel
  unfold Store.activeSites
  rw [hsql]
  exact explanations_ask (q := .activeSites) (isOk_sitesTable _)

theorem explanations_activeCount :
    st.activeCount.explanations = st.shown (st.runs .activeCount) :=
  explanations_ask (q := .activeCount) (isOk_sitesTable _)

theorem explanations_userOfSite (userId siteId : Int) :
    (st.userOfSite userId siteId).explanations =
      st.shown (st.runs (.userOfSite userId siteId)) := by
  have hsql : Users.userColumns ++ "users.id = ? AND users.site_id = ?" =
      (Select.userOfSite 0 0).sql := by
    decide +kernel
  unfold Store.userOfSite
  rw [hsql]
  exact explanations_ask (q := .userOfSite userId siteId) (isOk_usersTable _)

theorem explanations_userByToken (token : String) (siteId : Int) :
    (st.userByToken token siteId).explanations = st.shown (st.runs (.userByToken siteId)) := by
  have hsql : Users.userColumns ++ "users.api_token = ? AND users.site_id = ?" =
      (Select.userByToken 0).sql := by
    decide +kernel
  unfold Store.userByToken
  rw [hsql]
  exact explanations_ask (q := .userByToken siteId) (isOk_usersTable _)

/-! ### Steps -/

theorem explanations_ofQuery (query : Traced (Option UserRow)) :
    (Principal.ofQuery query).explanations = query.explanations := by
  refine explanations_before (v := query.attempt) fun found => ?_
  cases found with
  | ok row => rfl
  | error f =>
    dsimp only
    split <;> rfl

theorem explanations_only (st : Store) :
    (Tenant.only st).explanations = st.shown (st.runs .activeSites) := by
  refine (explanations_before (v := st.activeSites.attempt) fun found => ?_).trans
    explanations_activeSites
  split
  · rfl
  · rfl
  · split <;> rfl

theorem explanations_settle (host : String) (found : Except Failure (Option SiteRow)) :
    (Tenant.settle host found).explanations = [] := by
  unfold Tenant.settle
  split <;> rfl

theorem explanations_settleOrOnly (st : Store) (host : String)
    (found : Except Failure (Option SiteRow)) :
    (Tenant.settleOrOnly st host found).explanations = st.shown (st.runs .activeSites) := by
  -- nothing is explained before the sites are listed, nor after
  have hgo : ∀ (w : Traced Unit) (next : Option SiteRow → Traced Tenant), w.explanations = [] →
      w.outcome = .ok () → (∀ spare, (next spare).explanations = []) →
      (w >>= fun _ => Tenant.only st >>= next).explanations = st.shown (st.runs .activeSites) := by
    intro w next hw ho hnext
    rw [explanations_andThen, hw, ho, List.nil_append]
    dsimp only
    rw [explanations_before hnext, explanations_only]
  unfold Tenant.settleOrOnly
  cases found with
  | error f =>
    refine hgo (Traced.perform .rolledBack) _ rfl rfl fun spare => ?_
    cases spare with
    | some r => rfl
    | none => exact explanations_settle host _
  | ok row =>
    refine hgo (pure ()) _ rfl rfl fun spare => ?_
    cases spare with
    | some r => rfl
    | none => exact explanations_settle host _

theorem sameFor_plain (st : Store) (site : Option Int) : Store.SameFor false site st st.plain :=
  ⟨rfl, nofun, rfl, fun _ _ => rfl⟩

theorem explanations_resolve (st : Store) (prod : Bool) (host domain : String) :
    (Tenant.resolve st prod host domain).explanations =
      st.shown (Tenant.selects st.plain prod host domain) := by
  have hfound := ((sameFor_plain st none).siteByHost host domain).outcome
  have hfirst : (st.siteByHost host domain).attempt.explanations = _ :=
    explanations_siteByHost host domain
  have hplain : ∀ q, st.plain.runs q = st.runs q := fun _ => rfl
  have hsettle := explanations_settle host (st.siteByHost host domain).outcome
  have honly := explanations_settleOrOnly st host (st.siteByHost host domain).outcome
  unfold Tenant.resolve Tenant.selects
  rw [explanations_andThen, hfirst, ← hfound, hplain, hplain, Store.shown_append]
  congr 1
  dsimp only [Traced.attempt]
  cases hrow : (st.siteByHost host domain).outcome with
  | ok row =>
    rw [hrow] at hsettle honly
    cases prod with
    | true => exact hsettle
    | false => exact honly
  | error f =>
    rw [hrow] at hsettle honly
    cases hf : f.isDatabase with
    | false =>
      simp [hf]
      rfl
    | true =>
      cases prod with
      | true => simpa [hf] using hsettle
      | false => simpa [hf] using honly

section

variable {a b : Context}

theorem explanations_ofSession (h : Context.SameFor false st st.plain a b) (now : Reading)
    (token : String) :
    (Principal.ofSession a now token).explanations =
      st.shown (Principal.selectsOfSession b now token) := by
  unfold Principal.ofSession Principal.selectsOfSession
  rw [h.site, h.settings]
  cases a.site with
  | none => rfl
  | some site =>
    dsimp only
    cases SessionToken.decode (.ofSettings a.settings) token now with
    | error f =>
      dsimp only
      split
      · rfl
      · rfl
      · rename_i he
        cases he
    | ok claims =>
      dsimp only
      split
      · rw [explanations_ofQuery, h.rest, h.store, explanations_userOfSite]
        rfl
      · rfl

theorem explanations_ofApiToken (h : Context.SameFor false st st.plain a b) (token : String) :
    (Principal.ofApiToken a token).explanations =
      st.shown (Principal.selectsOfApiToken b token) := by
  unfold Principal.ofApiToken Principal.selectsOfApiToken
  rw [h.site]
  cases a.site with
  | none => split <;> rfl
  | some site =>
    dsimp only
    split
    · rfl
    · rw [explanations_before fun user => ?_, explanations_ofQuery, h.rest, h.store,
        explanations_userByToken]
      · rfl
      · cases user <;> rfl

theorem explanations_identify (h : Context.SameFor false st st.plain a b) (now : Reading)
    (bearer : Option String) (cookies : List String) :
    (a.identify now bearer cookies).explanations = st.shown (b.selects now cookies) := by
  have hb := h.withBearer bearer
  have hselects : b.selects now cookies = (b.withBearer bearer).selects now cookies := by
    rw [Context.withBearer_eq]
    rfl
  unfold Context.identify
  rw [hselects]
  generalize a.withBearer bearer = a', b.withBearer bearer = b' at hb
  have htoken : a'.sessionToken? cookies = b'.sessionToken? cookies := by
    rw [Context.sessionToken?, Context.sessionToken?, hb.settings]
  unfold Context.selects
  dsimp only
  rw [hb.user, htoken]
  cases a'.user with
  | some user => rfl
  | none =>
    cases b'.sessionToken? cookies with
    | none => rfl
    | some token =>
      exact (explanations_before fun _ => rfl).trans (explanations_ofSession hb now token)

theorem explanations_filter (h : Context.SameFor false st st.plain a b) (check : Check) :
    (check.filter a).explanations = st.shown (check.selects b) := by
  have passIf : ∀ ok rejection, (Check.passIf ok rejection a).explanations = [] := by
    intro ok rejection
    unfold Check.passIf
    split <;> rfl
  cases check with
  | loggedIn => exact passIf _ _
  | loggedInOrPublic => exact passIf _ _
  | noSubSites =>
    show (Check.refuseChild a).explanations = _
    unfold Check.refuseChild
    split
    · rfl
    · split <;> rfl
  | adminOnly => exact passIf _ _
  | keyAuth =>
    show (Check.authenticate a).explanations = _
    unfold Check.authenticate
    rw [explanations_before fun user => rfl, ← h.credential]
    exact explanations_ofApiToken h _

/-- The filters after one that ends the request ask nothing. -/
theorem explanations_judge (checks : List Check) (h : Context.SameFor false st st.plain a b) :
    (Filter.judge (checks.map Check.filter) a).explanations =
      st.shown (Filter.selects checks b) := by
  induction checks generalizing a b with
  | nil => rfl
  | cons check rest ih =>
    have hf := filter_alike h check
    have hfirst : (check.filter a).attempt.explanations = _ := explanations_filter h check
    simp only [List.map_cons, Filter.judge, Filter.selects]
    rw [explanations_andThen, hfirst, Store.shown_append]
    congr 1
    generalize check.filter a = v, check.filter b = w at hf
    cases hf with
    | ok _ hctx => exact (explanations_before fun _ => rfl).trans (ih hctx)
    | error f _ => rfl

theorem explanations_chain (checks : List Check) (h : Context.SameFor false st st.plain a b) :
    (Filter.chain (checks.map Check.filter) a).explanations =
      st.shown (Filter.selects checks b) := by
  unfold Filter.chain
  rw [explanations_before fun j => ?_]
  · exact explanations_judge checks h
  · cases j.rejection <;> rfl

/-! ### Endpoints -/

theorem explanations_respond (h : Context.SameFor false st st.plain a b) (checks : List Check)
    (now : Reading) (r : Request) :
    (Page.respond checks a now r).explanations = st.shown (Page.selects checks b now r) := by
  unfold Page.respond
  rw [explanations_before fun _ => rfl]
  exact explanations_bind (identify_alike h now r.bearer? r.cookies)
    (explanations_identify h now _ _) fun _ _ h' => explanations_chain checks h'

theorem explanations_signIn (h : Context.SameFor false st st.plain a b) (now : Reading)
    (r : Request) :
    (DevSession.respond a now r).explanations = st.shown (DevSession.selects b r) := by
  have hrushed : b.rushed = a.rushed := by rw [h.rest]
  unfold DevSession.respond DevSession.selects Context.wait
  rw [explanations_andThen, hrushed, h.settings, h.site]
  cases a.rushed with
  | true => rfl
  | false =>
    cases DevSession.readUserId r with
    | error refusal => rfl
    | ok userId =>
      show (DevSession.signIn a now userId).explanations = _
      unfold DevSession.signIn
      cases a.settings.prod with
      | true => rfl
      | false =>
        cases a.site with
        | none => rfl
        | some site =>
          dsimp only
          rw [explanations_before fun row => by cases row <;> rfl, h.store, h.rest,
            explanations_userOfSite]
          rfl

theorem explanations_ready (h : Context.SameFor false st st.plain a b) :
    (Probe.ready a).explanations = st.shown (b.store.runs .activeCount) := by
  have hask : a.store.activeCount.attempt.explanations = _ := explanations_activeCount
  unfold Probe.ready
  rw [explanations_before fun found => ?_, hask, h.store, h.rest]
  · rfl
  · cases found with
    | ok sites => rfl
    | error f =>
      dsimp only
      split <;> rfl

theorem explanations_act (h : Context.SameFor false st st.plain a b) (e : Endpoint) (now : Reading)
    (r : Request) :
    (Dispatch.act e a now r).explanations =
      st.shown (Dispatch.selectsOfEndpoint e b now r) := by
  cases e with
  | live => rfl
  | ready => exact (explanations_before fun _ => rfl).trans (explanations_ready h)
  | devSession => exact (explanations_before fun _ => rfl).trans (explanations_signIn h now r)
  | page checks =>
    exact (explanations_before fun _ => rfl).trans (explanations_respond h checks now r)
  | documentation => rfl
  | timed script => rfl

theorem explanations_route (h : Context.SameFor false st st.plain a b) (routes : List Route)
    (now : Reading) (r : Request) :
    (Dispatch.route routes a now r).explanations =
      st.shown (Dispatch.selectsOfRoute routes b now r) := by
  unfold Dispatch.route Dispatch.selectsOfRoute
  cases Route.find routes r.method r.path with
  | found e =>
    dsimp only
    rw [explanations_rescue fun _ => rfl]
    exact explanations_act h e now r
  | wrongMethod allowed => rfl
  | moved path => rfl
  | unknown => rfl

end

/-! ### The whole request -/

theorem explanations_withoutSite (s : Settings) (host : String) (f : Failure) :
    (Dispatch.withoutSite s host f).explanations = [] := by
  unfold Dispatch.withoutSite
  split
  · rfl
  · split <;> rfl

theorem explanations_dispatch (ctx : Context) (routes : List Route) (now : Reading) (r : Request) :
    (Dispatch.dispatch routes ctx now r).explanations =
      ctx.store.shown
        (Dispatch.selects routes { ctx with store := ctx.store.plain } now r) := by
  have hstart : Context.SameFor false ctx.store ctx.store.plain ctx
      { ctx with store := ctx.store.plain } := ⟨rfl, rfl, sameFor_plain _ _⟩
  unfold Dispatch.dispatch Dispatch.selects
  dsimp only
  split
  · exact (explanations_before fun _ => rfl).trans (explanations_route hstart routes now r)
  · have hresolve := resolve_alike (sameFor_plain ctx.store none) ctx.settings.prod r.host
      ctx.settings.domain
    have hfirst : (Tenant.resolve ctx.store ctx.settings.prod r.host
      ctx.settings.domain).attempt.explanations = _ := explanations_resolve _ _ _ _
    rw [explanations_andThen, hfirst, Store.shown_append]
    congr 1
    generalize Tenant.resolve ctx.store ctx.settings.prod r.host ctx.settings.domain = v,
      Tenant.resolve ctx.store.plain ctx.settings.prod r.host ctx.settings.domain = w at hresolve
    cases hresolve with
    | error f _ =>
      exact (explanations_before fun _ => rfl).trans (explanations_withoutSite _ _ f)
    | ok _ hsame =>
      subst hsame
      rename_i site _ _ _
      have hon : Context.SameFor false ctx.store ctx.store.plain { ctx with site := some site }
          { ctx with store := ctx.store.plain, site := some site } :=
        ⟨rfl, rfl, sameFor_plain _ _⟩
      refine (explanations_bound _ _).trans ?_
      exact (explanations_before fun _ => rfl).trans (explanations_route hon routes now r)

namespace Exchange

variable (s : Settings) (routes : List Route) (c : Circumstances) (r : Request)

theorem shown_requestContext (queries : List Select) :
    (requestContext s c r).store.shown queries =
      match s.prod, Cookie.find? r.cookies s.explainCookie with
      | false, some part => ((queries.map Select.sql).filter fun sql =>
          Text.occursIn part.toList sql.toList).map fun sql => ⟨sql, c.store.plan sql⟩
      | _, _ => [] := by
  have hexplain : (requestContext s c r).store.explain = Dispatch.explainText? s r := rfl
  unfold Store.shown Store.explains
  rw [hexplain, plan_requestContext, Dispatch.explainText?]
  cases s.prod with
  | true => simp
  | false => cases Cookie.find? r.cookies s.explainCookie <;> simp

/-- What an exchange explains is what is due. -/
theorem explanations_serve : (serve s routes c r).explanations = due s routes c r := by
  unfold serve due selects
  split
  · have hnone : (match s.prod, Cookie.find? r.cookies s.explainCookie with
        | false, some part => ((([] : List Select).map Select.sql).filter fun sql =>
            Text.occursIn part.toList sql.toList).map fun sql => ⟨sql, c.store.plan sql⟩
        | _, _ => []) = ([] : List Explanation) := by
      split <;> rfl
    rw [hnone]
    cases c.clock <;> rfl
  · unfold underDeadline
    dsimp only
    rw [(ofResult_frame _ _).explanations, explanations_bound, explanations_dispatch,
      shown_requestContext]
    rfl

end Exchange

end

end Gatehouse
