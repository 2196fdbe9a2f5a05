import Mathlib.Data.List.Forall2
import Gatehouse.Gateway.Application
import Gatehouse.Proofs.Gateway.Delivery
import Gatehouse.Proofs.Gateway.Explaining
import Gatehouse.Proofs.Session.Spaced

/-! # The sink of explanations

Requests come in one after the other (`Visit`), and what they explain is written to one sink. It
holds what is due of each request, in their order, and nothing else (`sink_exact`).

The second part compares a run with another that explains every query: the blocks of the first
are those of the second that the text of the first occurs in. A request that asks for less runs
the same queries (`selects_sameBut`) and takes the same time (`ended_sameBut`), so that the next
one finds the same. That is clear as long as the explain cookie is not the session cookie at the
same time. If it is, then a text that occurs in any statement at all is no session token
(`refused_of_spaced`), and one that occurs in none leaves nothing to compare. -/

namespace Gatehouse

open Traced

/-! ### The queries of two requests -/

theorem onward_congr {x y : Traced α} (h : x.outcome = y.outcome) (next : α → List Select) :
    x.onward next = y.onward next := by
  unfold Traced.onward
  rw [h]

/-- Two requests whose sessions lead to the same user over the same queries. -/
def Identified (s : Settings) (now : Reading) (r r' : Request) : Prop :=
  ∀ ctx : Context, ctx.settings = s →
    (ctx.identify now r'.bearer? r'.cookies).outcome =
        (ctx.identify now r.bearer? r.cookies).outcome ∧
      ctx.selects now r'.cookies = ctx.selects now r.cookies

section

variable {s : Settings} {name : String} {now : Reading} {r r' : Request} {ctx : Context}

theorem selectsOfRoute_sameBut (h : r.SameBut name r') (hi : Identified s now r r')
    (hs : ctx.settings = s) (routes : List Route) :
    Dispatch.selectsOfRoute routes ctx now r' = Dispatch.selectsOfRoute routes ctx now r := by
  unfold Dispatch.selectsOfRoute
  rw [h.method, h.path]
  split
  · rename_i e _
    cases e with
    | page checks =>
      obtain ⟨ho, hselects⟩ := hi ctx hs
      simp only [Dispatch.selectsOfEndpoint, Page.selects, hselects, onward_congr ho]
    | devSession =>
      simp only [Dispatch.selectsOfEndpoint, DevSession.selects, h.readUserId]
    | _ => rfl
  · rfl

/-- They run the same queries. -/
theorem selects_sameBut (h : r.SameBut name r') (hi : Identified s now r r')
    (hs : ctx.settings = s) (routes : List Route) :
    Dispatch.selects routes ctx now r' = Dispatch.selects routes ctx now r := by
  have honSite : ∀ site : Tenant,
      Dispatch.selectsOfRoute routes { ctx with site := some site } now r' =
        Dispatch.selectsOfRoute routes { ctx with site := some site } now r := by
    intro site
    have hsite : ({ ctx with site := some site } : Context).settings = s := hs
    exact selectsOfRoute_sameBut h hi hsite routes
  unfold Dispatch.selects
  rw [h.path, h.host, selectsOfRoute_sameBut h hi hs routes]
  simp only [honSite]

/-! ### Sessions that are not followed -/

/-- A session whose token is refused leaves the context as it is, and asks nothing. -/
theorem identify_of_refused (bearer : Option String) {cookies : List String}
    (h : ∀ token ∈ ctx.sessionToken? cookies,
      SessionToken.IsRefused (SessionToken.decode (.ofSettings ctx.settings) token now)) :
    (ctx.identify now bearer cookies).outcome = .ok (ctx.withBearer bearer) ∧
      ctx.selects now cookies = [] := by
  constructor
  · have hsettings : (ctx.withBearer bearer).settings = ctx.settings := by
      rw [Context.withBearer_eq]
    have htoken : (ctx.withBearer bearer).sessionToken? cookies = ctx.sessionToken? cookies := by
      rw [Context.sessionToken?, hsettings, ← Context.sessionToken?]
    unfold Context.identify
    dsimp only
    rw [htoken]
    generalize ctx.withBearer bearer = found at hsettings
    cases hu : found.user with
    | some user => rfl
    | none =>
      cases ht : ctx.sessionToken? cookies with
      | none => rfl
      | some token =>
        obtain ⟨fault, hfault⟩ := h token ht
        have huser : (Principal.ofSession found now token).outcome = .ok none := by
          unfold Principal.ofSession
          rw [hsettings, hfault]
          cases found.site <;> rfl
        dsimp only
        rw [outcome_bind, huser, ← hu]
        rfl
  · unfold Context.selects
    cases ctx.user with
    | some user => rfl
    | none =>
      cases ht : ctx.sessionToken? cookies with
      | none => rfl
      | some token =>
        obtain ⟨fault, hfault⟩ := h token ht
        dsimp only
        unfold Principal.selectsOfSession
        rw [hfault]
        cases ctx.site <;> rfl

theorem spaced_sql (q : Select) : Text.Spaced q.sql.toList := by
  apply Text.Spaced.of_isSpaced
  cases q with
  | siteByHost byCode => cases byCode <;> decide +kernel
  | activeSites => decide +kernel
  | activeCount => decide +kernel
  | userOfSite userId siteId =>
    show Text.isSpaced false (Select.userOfSite 0 0).sql.toList = true
    decide +kernel
  | userByToken siteId =>
    show Text.isSpaced false (Select.userByToken 0).sql.toList = true
    decide +kernel

end

/-- The same request with a text to explain by, where the other one explains everything; either both
have the cookie or neither. -/
structure Request.Narrows (name part : String) (r all : Request) : Prop where
  same : r.SameBut name all
  cookie : Cookie.find? r.cookies name = (Cookie.find? all.cookies name).map fun _ => part
  every : ∀ text ∈ Cookie.find? all.cookies name, text = ""

/-- Whether the statement of a query contains a text. -/
def Explanation.mentions (e : Explanation) (part : String) : Bool :=
  Text.occursIn part.toList e.sql.toList

section

variable {s : Settings} {part : String} {r all : Request} {now : Reading}

/-- A text that some statement contains signs nobody in. -/
theorem identified_of_narrows (h : r.Narrows s.explainCookie part all)
    (hcookie : Cookie.find? all.cookies s.explainCookie = some "") {q : Select}
    (hq : Text.occursIn part.toList q.sql.toList = true) : Identified s now r all := by
  intro ctx hs
  by_cases hn : s.sessionCookie = s.explainCookie
  · have hrefused : ∀ text, Text.Spaced text.toList → ∀ cookies,
        Cookie.find? cookies s.explainCookie = some text →
        ∀ token ∈ ctx.sessionToken? cookies,
          SessionToken.IsRefused (SessionToken.decode (.ofSettings ctx.settings) token now) := by
      intro text htext cookies hfind token ht
      have hfound : (Cookie.find? cookies s.explainCookie).filter (fun t => !t.isEmpty) =
          some token := by
        rw [← hn, ← hs]
        exact ht
      rw [hfind] at hfound
      obtain rfl := Option.some.inj (Option.filter_eq_some_iff.1 hfound).1
      exact SessionToken.refused_of_spaced htext _ _
    have hfind : Cookie.find? r.cookies s.explainCookie = some part := by
      rw [h.cookie, hcookie]
      rfl
    have hpart := (spaced_sql q).piece hq
    obtain ⟨ho, hselects⟩ := identify_of_refused r.bearer? (hrefused part hpart _ hfind)
    obtain ⟨ho', hselects'⟩ := identify_of_refused all.bearer?
      (hrefused "" (Text.Spaced.of_isSpaced rfl) _ hcookie)
    rw [ho, ho', hselects, hselects', h.same.bearer?]
    exact ⟨rfl, rfl⟩
  · have hname : ctx.settings.sessionCookie ≠ s.explainCookie := by rwa [hs]
    rw [h.same.identify hname]
    refine ⟨rfl, ?_⟩
    unfold Context.selects
    rw [h.same.sessionToken? hname]

namespace Exchange

variable {routes : List Route} {c : Circumstances}

theorem plainContext_sameBut {name : String} {r' : Request} (h : r.SameBut name r') :
    plainContext s c r' = plainContext s c r := by
  unfold plainContext requestContext
  rw [h.path]
  rfl

/-- Asking for less explains that much less. -/
theorem due_of_narrows (h : r.Narrows s.explainCookie part all) :
    due s routes c r = (due s routes c all).filter fun e => e.mentions part := by
  unfold due
  rw [h.cookie]
  cases s.prod with
  | true => rfl
  | false =>
    cases hcookie : Cookie.find? all.cookies s.explainCookie with
    | none => rfl
    | some text =>
      obtain rfl := h.every text hcookie
      let contains (part sql : String) : Bool := Text.occursIn part.toList sql.toList
      let explain (sql : String) : Explanation := ⟨sql, c.store.plan sql⟩
      have hall : ((selects s routes c all).map Select.sql).filter (contains "") =
          (selects s routes c all).map Select.sql :=
        List.filter_eq_self.2 fun _ _ => Text.occursIn_iff.2 List.nil_infix
      show (((selects s routes c r).map Select.sql).filter (contains part)).map explain =
        ((((selects s routes c all).map Select.sql).filter (contains "")).map explain).filter
          (·.mentions part)
      have hmentions (l : List String) : (l.map explain).filter (·.mentions part) =
          (l.filter (contains part)).map explain := List.filter_map
      rw [hall, hmentions]
      by_cases hq : ∃ q : Select, contains part q.sql = true
      · obtain ⟨q, hq⟩ := hq
        have hi : Identified s c.wall r all := identified_of_narrows h hcookie hq
        have hselects : selects s routes c all = selects s routes c r := by
          unfold selects
          rw [plainContext_sameBut h.same, h.same.path, selects_sameBut h.same hi rfl]
        rw [hselects]
      · have hnone : ∀ queries : List Select,
            (queries.map Select.sql).filter (contains part) = [] := by
          intro queries
          refine List.filter_eq_nil_iff.2 fun sql hsql hcontains => hq ?_
          obtain ⟨q, -, rfl⟩ := List.mem_map.1 hsql
          exact ⟨q, hcontains⟩
        rw [hnone, hnone]

end Exchange

end

/-! ### The time that a request takes -/

namespace Dispatch

variable {name : String} {routes : List Route} {ctx : Context} {now : Reading} {r r' : Request}

/-- The script of work that takes time. -/
def script? : Except Failure Act → Option Script
  | .ok (.work script) => some script
  | _ => none

/-- The script that a request is routed to, if it is. -/
def timed? (routes : List Route) (r : Request) : Option Script :=
  match Route.find routes r.method r.path with
  | .found (.timed script) => some script
  | _ => none

theorem script?_answer (x : Traced Response) :
    script? (x >>= fun a => pure (.answer a)).outcome = none := by
  rw [outcome_bind]
  cases x.outcome <;> rfl

theorem script?_act (e : Endpoint) (ctx : Context) (now : Reading) (r : Request) :
    script? (act e ctx now r).outcome =
      match e with
      | .timed script => some script
      | _ => none := by
  cases e with
  | live => rfl
  | ready => exact script?_answer _
  | devSession => exact script?_answer _
  | page checks => exact script?_answer _
  | documentation => rfl
  | timed script => rfl

theorem script?_route (routes : List Route) (ctx : Context) (now : Reading) (r : Request) :
    script? (route routes ctx now r).outcome = timed? routes r := by
  unfold route timed?
  cases Route.find routes r.method r.path with
  | found e =>
    have hact := script?_act e ctx now r
    dsimp only
    cases ho : (act e ctx now r).outcome with
    | ok a =>
      rw [outcome_rescue_ok ho, ← ho, hact]
      cases e <;> rfl
    | error f =>
      rw [ho] at hact
      rw [outcome_rescue_error ho]
      have hnone : script? (Traced.ofExcept ((answerError ctx.settings f).map .answer)).outcome =
          none := by
        unfold Traced.ofExcept
        cases answerError ctx.settings f <;> rfl
      rw [hnone]
      cases e with
      | timed script => cases hact
      | _ => rfl
  | wrongMethod allowed => rfl
  | moved path => rfl
  | unknown => rfl

theorem script?_reaction (x : Traced Act) (site : Option Tenant) :
    Exchange.script? (x >>= fun act => pure (Reaction.mk site act)).outcome =
      script? x.outcome := by
  rw [outcome_bind]
  cases x.outcome with
  | error f => rfl
  | ok act => cases act <;> rfl

/-- They are left with the same work. -/
theorem script?_sameBut (h : r.SameBut name r') (routes : List Route) (ctx : Context)
    (now : Reading) :
    Exchange.script? (dispatch routes ctx now r').outcome =
      Exchange.script? (dispatch routes ctx now r).outcome := by
  have htimed : timed? routes r' = timed? routes r := by
    unfold timed?
    rw [h.method, h.path]
  have hroute : ∀ ctx : Context, ∀ site,
      Exchange.script? (route routes ctx now r' >>= fun act =>
          pure (Reaction.mk site act)).outcome =
        Exchange.script? (route routes ctx now r >>= fun act =>
          pure (Reaction.mk site act)).outcome := by
    intro ctx site
    rw [script?_reaction, script?_reaction, script?_route, script?_route, htimed]
  unfold dispatch
  rw [h.path, h.host]
  split
  · exact hroute ctx none
  · rw [outcome_bind, outcome_bind]
    dsimp only [Traced.attempt]
    cases (Tenant.resolve ctx.store ctx.settings.prod r.host ctx.settings.domain).outcome with
    | error f => rfl
    | ok site => exact hroute { ctx with site := some site } (some site)

end Dispatch

namespace Exchange

variable {s : Settings} {routes : List Route} {c : Circumstances} {r r' : Request} {name : String}

/-- How long the guarded work takes depends on its script, if there is one. -/
theorem now_guarded_perform {o o' : Except Failure Reaction} (h : script? o' = script? o)
    (budget : Budget) (deadline : Binary64) {run : Run} (hr : run.interrupt = none) :
    (Guard.guarded .prompt budget (perform s deadline o') run).run.now =
      (Guard.guarded .prompt budget (perform s deadline o) run).run.now := by
  cases hs : script? o with
  | none =>
    rw [now_guarded (instant_perform (h.trans hs) deadline) hr,
      now_guarded (instant_perform hs deadline) hr]
  | some script =>
    have hperform : ∀ p : Except Failure Reaction, script? p = some script →
        perform s deadline p = perform s deadline (.ok ⟨none, .work script⟩) := by
      intro p hp
      unfold script? at hp
      split at hp
      · obtain rfl := Option.some.inj hp
        rfl
      · cases hp
    rw [hperform o' (h.trans hs), hperform o hs]

/-- Requests that differ in a cookie end at the same time. -/
theorem ended_sameBut (h : r.SameBut name r') :
    (serve s routes c r').ended = (serve s routes c r).ended := by
  unfold serve
  rw [h.path, h.context]
  split
  · cases c.clock <;> rfl
  · obtain ⟨hctx, hstore⟩ := requestContext_sameBut (s := s) (c := c) h
    have halike : Alike false Eq (Dispatch.dispatch routes (requestContext s c r) c.wall r)
        (Dispatch.dispatch routes (requestContext s c r') c.wall r) :=
      dispatch_alike rfl hctx (hstore _) routes c.wall
    have hscript := Dispatch.script?_sameBut h routes (requestContext s c r') c.wall
    rw [← halike.outcome] at hscript
    have hdeadline : (requestContext s c r').deadline = (requestContext s c r).deadline := by
      rw [hctx]
    unfold underDeadline
    dsimp only
    rw [(ofResult_frame _ _).ended, (ofResult_frame _ _).ended, h.path, hdeadline]
    exact now_guarded_perform hscript _ _ rfl

end Exchange

/-! ### Requests one after the other -/

/-- A request, and what happens before it comes in. -/
structure Visit where
  /-- Time passes, and the tables change. -/
  before : Standing → Standing
  ticket : Ticket
  request : Request

/-- The same visit with less to explain. -/
structure Visit.Narrows (name part : String) (v all : Visit) : Prop where
  before : all.before = v.before
  ticket : all.ticket = v.ticket
  request : v.request.Narrows name part all.request

namespace Application

/-- What comes of each request. -/
def exchanges (app : Application) : Standing → List Visit → List Exchange
  | _, [] => []
  | st, v :: rest =>
    let x := app.request (v.before st) v.ticket v.request
    x.1 :: exchanges app x.2 rest

/-- What all requests explain, in their order. -/
def explained (app : Application) (st : Standing) (visits : List Visit) : List Explanation :=
  (app.exchanges st visits).flatMap Exchange.explanations

/-- What is written to the sink. -/
def sink (app : Application) (st : Standing) (visits : List Visit) : String :=
  String.join ((app.explained st visits).map Explanation.text)

/-- A statement and its plan as they stand in the sink: the plan has a line for each row, which is
set off by a tab, with bars between the columns. -/
def block (e : Explanation) : String :=
  e.sql ++ "\n" ++
    String.join (e.plan.map fun row => "\t" ++ String.intercalate " | " row ++ "\n")

/-- What is due of each request, as it finds the application. -/
def due (app : Application) : Standing → List Visit → List Explanation
  | _, [] => []
  | st, v :: rest =>
    Exchange.due app.settings app.routes (app.circumstances (v.before st).settled v.ticket)
        v.request ++
      due app (app.request (v.before st) v.ticket v.request).2 rest

variable {app : Application} {st : Standing}

theorem explained_cons (v : Visit) (rest : List Visit) :
    app.explained st (v :: rest) =
      (app.request (v.before st) v.ticket v.request).1.explanations ++
        app.explained (app.request (v.before st) v.ticket v.request).2 rest :=
  List.flatMap_cons

theorem explanations_request (ticket : Ticket) (r : Request) :
    (app.request st ticket r).1.explanations =
      Exchange.due app.settings app.routes (app.circumstances st.settled ticket) r :=
  Exchange.explanations_serve _ _ _ _

theorem explained_eq_due (visits : List Visit) : app.explained st visits = app.due st visits := by
  induction visits generalizing st with
  | nil => rfl
  | cons v rest ih => rw [explained_cons, due, explanations_request, ih]

/-- A visit leaves the application as the one with more to explain does, with that much less in the
sink. -/
theorem request_of_narrows (st : Standing) {part : String} {v all : Visit}
    (h : v.Narrows app.settings.explainCookie part all) :
    (app.request (v.before st) v.ticket v.request).1.explanations =
        (app.request (all.before st) all.ticket all.request).1.explanations.filter
          (fun e => e.mentions part) ∧
      (app.request (v.before st) v.ticket v.request).2 =
        (app.request (all.before st) all.ticket all.request).2 := by
  rw [h.before, h.ticket]
  constructor
  · rw [explanations_request, explanations_request]
    exact Exchange.due_of_narrows h.request
  · unfold request
    dsimp only
    rw [Exchange.ended_sameBut h.request.same]

theorem explained_of_narrows {part : String} {visits alls : List Visit}
    (h : List.Forall₂ (Visit.Narrows app.settings.explainCookie part) visits alls) :
    app.explained st visits = (app.explained st alls).filter fun e => e.mentions part := by
  induction h generalizing st with
  | nil => rfl
  | cons hv _ ih =>
    obtain ⟨hexplained, hstanding⟩ := request_of_narrows st hv
    rw [explained_cons, explained_cons, List.filter_append, hexplained, hstanding, ih]

theorem sink_eq_blocks (visits : List Visit) :
    app.sink st visits = String.join ((app.explained st visits).map block) := rfl

/-- **The sink is exact.** It holds one block for each query that is due, in the order of the
requests and of the queries of each, and nothing else. And if each request that explains anything
asks for the same text, then its blocks are those among the blocks of asking for everything that the
text occurs in. -/
theorem sink_exact (app : Application) (st : Standing) (visits : List Visit) :
    app.sink st visits = String.join ((app.due st visits).map block) ∧
      ∀ (part : String) (alls : List Visit),
        List.Forall₂ (Visit.Narrows app.settings.explainCookie part) visits alls →
        app.explained st visits = (app.explained st alls).filter (fun e => e.mentions part) ∧
          app.sink st visits =
            String.join (((app.due st alls).filter fun e => e.mentions part).map block) := by
  refine ⟨by rw [sink_eq_blocks, explained_eq_due], fun part alls h => ?_⟩
  have hexplained : app.explained st visits = (app.explained st alls).filter _ :=
    explained_of_narrows h
  exact ⟨hexplained, by rw [sink_eq_blocks, hexplained, explained_eq_due]⟩

/-- The readiness probe counts the sites: with an explain cookie that mentions this, with an empty
one, and then without any. -/
theorem counting_explained :
    let app : Application :=
      ⟨.initial, Route.sample, .sinceEntry, fun _ _ => [["3", "0", "0", "SCAN sites"]],
        fun _ => .ok .epoch, fun _ => .error .notCompliant, .initial, none, 0⟩
    let probe (cookie : String) : Request :=
      ⟨"server", "GET", "/readyz", "", [("cookie", cookie)], ""⟩
    let visit (cookie : String) : Visit := ⟨fun st => st, ⟨"id", ⟨0, 0⟩⟩, probe cookie⟩
    let visits := [visit "debug-explain=count(*)", visit "a=b"]
    let alls := [visit "debug-explain=", visit "a=b"]
    let st := app.begin .fresh
    app.sink st visits = "SELECT count(*) AS count_1 \nFROM sites \nWHERE sites.state = ?\n" ++
        "\t3 | 0 | 0 | SCAN sites\n" ∧
      app.sink st visits =
        String.join (((app.due st alls).filter fun e => e.mentions "count(*)").map block) := by
  intro app probe visit visits alls st
  have hasking : Visit.Narrows app.settings.explainCookie "count(*)"
      (visit "debug-explain=count(*)") (visit "debug-explain=") :=
    ⟨rfl, rfl, ⟨rfl, by decide +kernel, by decide +kernel⟩, by decide +kernel, by decide +kernel⟩
  have hplain : Visit.Narrows app.settings.explainCookie "count(*)" (visit "a=b") (visit "a=b") :=
    ⟨rfl, rfl, ⟨rfl, rfl, rfl⟩, by decide +kernel, by decide +kernel⟩
  have hexact := sink_exact app st visits
  have hdue : app.due st visits =
      [⟨Select.activeCount.sql, [["3", "0", "0", "SCAN sites"]]⟩] := by
    decide +kernel
  refine ⟨?_, (hexact.2 "count(*)" alls (.cons hasking (.cons hplain .nil))).2⟩
  rw [hexact.1, hdue]
  decide +kernel

end Application

end Gatehouse
