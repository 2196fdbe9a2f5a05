import Gatehouse.Proofs.Gateway.Logged
import Gatehouse.Proofs.Gateway.OnSite
import Gatehouse.Proofs.Log.Ambient

/-! # What a request does to the log

The task that the application is called in clears what is bound to it, binds the fields of the
request, and starts a task that works on the request. That task binds the id of the site once it is
known. When the response starts, or the request has broken down, the first task logs the summary, if
there is a response, and clears what is bound to it again. The guard warns in the task that works on
the request, and may do so even if no response is to be had any more.

The exchange says of each event which fields it has. Here it is shown that these are the fields
which the task that logs the event finds bound to it, whatever has been bound before
(`logged_openingJournal`, `logged_closingJournal`). The one case that is not plain is a request
whose site is known and whose work fails: the exchange binds no site to its warnings then, and there
are none (`events_of_failure`). What is logged at the end is the summary, with warnings before or
after it, or warnings at most (`closing_serve`). -/

namespace Gatehouse

open Traced

/-! ### Warnings -/

namespace Guard

/-- A guarded request that breaks down leaves no warning. -/
theorem events_of_error {budget : Budget} {work : Work} {run : Run} {f : Failure}
    (h : (guarded .prompt budget work run).outcome = .error f) :
    (guarded .prompt budget work run).events = [] := by
  cases hw : work (run.enter budget.limit?) with
  | mk r out =>
    rw [guarded_of hw] at h ⊢
    split at h
    · exfalso
      cases hs : r.left.status.truthy with
      | true =>
        unfold conclude at h
        rw [if_pos hs] at h
        cases h
      | false =>
        rw [(conclude_prompt budget hs).1] at h
        cases h
    · rename_i hoverdue
      rw [if_neg hoverdue]

end Guard

namespace Exchange

open Run

theorem expired_giveUp {due : Option Rat} {r : Run} (h : Calm due r) (f : Failure) :
    (giveUp f r).1.expired = false := by
  have hsuspend {w : Work} (hw : ∀ s, Calm due s → (w s).1.expired = false) {s : Run}
      (hs : Calm due s) : (Work.andThen (suspend 0) w s).1.expired = false := by
    obtain ⟨hok, hcalm⟩ := hs.suspend
    cases e : suspend 0 s with
    | mk s' out =>
      rw [e] at hok hcalm
      obtain rfl : out = .ok () := hok
      rw [Work.andThen_of_ok e]
      exact hw s' hcalm
  unfold giveUp
  split
  · exact hsuspend (fun s hs => hsuspend (fun s' hs' => hs'.expired) hs) h
  · exact h.expired

/-- With time left a request that fails leaves no warning. -/
theorem events_of_failure {budget : Budget} {time : Rat} (h : budget.isOver time = false)
    (reckoning : Reckoning) (f : Failure) :
    (Guard.guarded .prompt budget (giveUp f) (Run.begin reckoning (.last time) [] none)).events =
      [] := by
  have hexpired := expired_giveUp (calm_begun h reckoning) f
  cases e : giveUp f (begun reckoning budget time) with
  | mk r out =>
    rw [e] at hexpired
    have hpunctual : ¬Guard.isOverdue r out = true := by
      simp only [Guard.isOverdue, show r.expired = false from hexpired, Bool.false_and,
        Bool.false_eq_true, not_false_eq_true]
    rw [Guard.guarded_of e, if_neg hpunctual]

end Exchange

/-! ### The work on a request -/

namespace Dispatch

variable {routes : List Route} {ctx : Context} {now : Reading} {r : Request}

/-- What the work on a request does to the log before it takes time. -/
def journal (routes : List Route) (ctx : Context) (now : Reading) (r : Request) : Journal :=
  if isExempt ctx.settings r.path then Journal.events .work (route routes ctx now r).events
  else
    let found := Tenant.resolve ctx.store ctx.settings.prod r.host ctx.settings.domain
    Journal.events .work found.events ++
      match found.outcome with
      | .ok site =>
        (.work, .bind (siteField site)) ::
          Journal.events .work (route routes { ctx with site := some site } now r).events
      | .error f => Journal.events .work (withoutSite ctx.settings r.host f).events

theorem events_map (x : Traced Act) (f : Act → Reaction) :
    (do return f (← x) : Traced Reaction).events = x.events := by
  rw [events_bind]
  cases x.outcome <;> exact List.append_nil _

theorem events_onSite (site : Tenant) :
    (onSite routes ctx site now r).events =
      (route routes { ctx with site := some site } now r).events.map
        (Event.bind (siteField site)) := by
  unfold onSite
  rw [events_bound, events_map]

/-- The events of the work are those that come of its journal. -/
theorem logged_journal (b : Bindings) :
    b.logged (journal routes ctx now r) =
      ((dispatch routes ctx now r).bound (b .work)).events := by
  rw [events_bound]
  unfold journal dispatch
  split
  · rw [Bindings.logged_events, events_map]
  · dsimp only
    rw [attempt_bind, events_preceded, List.map_append, Bindings.logged_append,
      Bindings.logged_events, Bindings.after_events]
    congr 1
    cases (Tenant.resolve ctx.store ctx.settings.prod r.host ctx.settings.domain).outcome with
    | error f => exact (Bindings.logged_events ..).trans (congrArg _ (events_map _ _).symm)
    | ok site =>
      dsimp only
      rw [events_onSite, List.map_map]
      refine (Bindings.logged_events ..).trans (List.map_congr_left fun e _ => ?_)
      show e.bind (Function.update b .work _ .work) = _
      rw [Function.update_self]
      exact (Event.bind_bind e (siteField site) (b .work)).symm

/-- The fields of a site, if there is one. -/
def tenantFields (site : Option Tenant) : Fields := (site.map siteField).getD []

/-- Only the work has got a field, and only if there is a site. -/
theorem after_journal (b : Bindings) :
    b.after (journal routes ctx now r) =
      Function.update b .work (Fields.above (tenantFields (tenant? ctx r)) (b .work)) := by
  have hnone : b = Function.update b .work (Fields.above (tenantFields none) (b .work)) := by
    have hnil : Fields.above (tenantFields none) (b .work) = b .work := Fields.nil_above _
    rw [hnil, Function.update_eq_self]
  unfold journal tenant?
  split
  · rw [Bindings.after_events]
    exact hnone
  · dsimp only
    rw [Bindings.after_append, Bindings.after_events]
    cases (Tenant.resolve ctx.store ctx.settings.prod r.host ctx.settings.domain).outcome with
    | error f => exact (Bindings.after_events ..).trans hnone
    | ok site => exact Bindings.after_events ..

/-- A reaction is that of the route, on the site of the request if its path needs one, or says why
there is no site. -/
theorem reaction_cases {reaction : Reaction}
    (h : (dispatch routes ctx now r).outcome = .ok reaction) :
    reaction.site = tenant? ctx r ∧
      ((∃ site, (route routes { ctx with site } now r).outcome = .ok reaction.act) ∨
        ∃ f, (withoutSite ctx.settings r.host f).outcome = .ok reaction.act) := by
  have hreaction {site : Option Tenant} {x : Traced Act}
      (hx : (do return ⟨site, ← x⟩ : Traced Reaction).outcome = .ok reaction) :
      reaction.site = site ∧ x.outcome = .ok reaction.act := by
    obtain ⟨act, hact, hreaction⟩ := outcome_bind_ok.1 hx
    obtain rfl := Except.ok.inj hreaction
    exact ⟨rfl, hact⟩
  unfold dispatch at h
  unfold tenant?
  split at h
  · rename_i he
    obtain ⟨hsite, hact⟩ := hreaction h
    rw [if_pos he]
    exact ⟨hsite, .inl ⟨ctx.site, hact⟩⟩
  · rename_i he
    rw [if_neg he]
    rw [attempt_bind] at h
    cases ho : (Tenant.resolve ctx.store ctx.settings.prod r.host ctx.settings.domain).outcome with
    | ok site =>
      rw [ho] at h
      obtain ⟨hsite, hact⟩ := hreaction h
      exact ⟨hsite, .inl ⟨some site, hact⟩⟩
    | error f =>
      rw [ho] at h
      obtain ⟨hsite, hact⟩ := hreaction h
      exact ⟨hsite, .inr ⟨f, hact⟩⟩

end Dispatch

/-! ### The whole request -/

namespace Exchange

variable {s : Settings} {routes : List Route} {c : Circumstances} {r : Request}

/-- What comes of the work on a request under its deadline. -/
def guardedWork (s : Settings) (routes : List Route) (c : Circumstances) (r : Request) :
    Guard.Result :=
  Guard.guarded .prompt ((Budgets.ofSettings s).choose r.path)
    (perform s (requestContext s c r).deadline
      (Dispatch.dispatch routes (requestContext s c r) c.wall r).outcome)
    (Run.begin c.reckoning (.last c.time) [] none)

theorem underDeadline_eq_ofResult (context : Fields) :
    underDeadline s routes c r context = ofResult c r context
      ((Dispatch.dispatch routes (requestContext s c r) c.wall r).bound context)
      (guardedWork s routes c r) := rfl

/-- What a request does to the log before it takes time. -/
def openingJournal (s : Settings) (routes : List Route) (c : Circumstances) (r : Request) :
    Journal :=
  [(.server, .clear), (.server, .bind (context c r)), (.server, .fork .work)] ++
    if r.path == s.statusPath then []
    else Dispatch.journal routes (requestContext s c r) c.wall r

/-- A response is summed up when it starts. -/
def summaryJournal (c : Circumstances) (status : Nat) : Journal :=
  [(.server, .log (finished c status)), (.server, .clear)]

/-- What a request does to the log at its end. -/
def closingJournal (s : Settings) (routes : List Route) (c : Circumstances) (r : Request) :
    Journal :=
  if r.path == s.statusPath then
    match c.clock with
    | .ok clock =>
      summaryJournal c (Status.respond clock (.json (.text s.version)) c.marker).status
    | .error _ => [(.server, .clear)]
  else
    let result := guardedWork s routes c r
    let warnings := Journal.events .work result.events
    match result.outcome with
    | .ok () =>
      if hasStarted result.run.sent then
        let summary := summaryJournal c (received result.run.sent).status
        if result.run.status.truthy then summary ++ warnings else warnings ++ summary
      else warnings ++ [(.server, .clear)]
    | .error _ => warnings ++ [(.server, .clear)]

/-- What is bound while the request is worked on. -/
def requestBindings (s : Settings) (c : Circumstances) (r : Request) (b : Bindings) : Bindings :=
  Function.update (Function.update b .server (context c r)) .work
    (Fields.above (Dispatch.tenantFields (tenant? s c r)) (context c r))

/-- When the work on a request starts, both tasks have the fields of the request. -/
theorem after_fork (b : Bindings) :
    b.after [(.server, .clear), (.server, .bind (context c r)), (.server, .fork .work)] =
      Function.update (Function.update b .server (context c r)) .work (context c r) := by
  have hbound : b.after [(.server, .clear), (.server, .bind (context c r))] =
      Function.update b .server (context c r) := by
    show Function.update (Function.update b LogTask.server []) LogTask.server
      (Fields.above (context c r) (Function.update b LogTask.server [] LogTask.server)) = _
    rw [Function.update_self, Fields.above_nil, Function.update_idem]
  show (b.after [(.server, .clear), (.server, .bind (context c r))]).step
    (.server, .fork .work) = _
  rw [hbound]
  show Function.update (Function.update b LogTask.server (context c r)) LogTask.work
    (Function.update b LogTask.server (context c r) LogTask.server) = _
  rw [Function.update_self]

theorem after_openingJournal (b : Bindings) :
    b.after (openingJournal s routes c r) = requestBindings s c r b := by
  unfold openingJournal requestBindings tenant?
  rw [Bindings.after_append, after_fork]
  split
  · rw [show Dispatch.tenantFields none = [] from rfl, Fields.nil_above]
    rfl
  · rw [Dispatch.after_journal, Function.update_idem, Function.update_self]

theorem logged_openingJournal (b : Bindings) :
    b.logged (openingJournal s routes c r) = (serve s routes c r).opening := by
  unfold openingJournal serve
  rw [Bindings.logged_append, after_fork]
  split
  · cases c.clock <;> rfl
  · show Bindings.logged _ (Dispatch.journal routes (requestContext s c r) c.wall r) = _
    rw [Dispatch.logged_journal, Function.update_self, underDeadline_eq_ofResult,
      (ofResult_frame _ _).opening]

theorem after_summaryJournal (status : Nat) (b : Bindings) :
    b.after (summaryJournal c status) = Function.update b .server [] := rfl

theorem after_closingJournal (b : Bindings) :
    b.after (closingJournal s routes c r) = Function.update b .server [] := by
  have hclear (b : Bindings) : b.after [(.server, .clear)] = Function.update b .server [] := rfl
  unfold closingJournal
  split
  · cases c.clock with
    | ok clock => exact after_summaryJournal _ b
    | error f => exact hclear b
  · dsimp only
    split
    · split
      · split
        · rw [Bindings.after_append, after_summaryJournal, Bindings.after_events]
        · rw [Bindings.after_append, after_summaryJournal, Bindings.after_events]
      · rw [Bindings.after_append, hclear, Bindings.after_events]
    · rw [Bindings.after_append, hclear, Bindings.after_events]

/-- The exchange binds the site to a warning if and only if the work has it bound to it. -/
theorem bind_warning {e : Event} (he : e ∈ (guardedWork s routes c r).events) :
    (e.bind (siteFields
      (Dispatch.dispatch routes (requestContext s c r) c.wall r).outcome)).bind (context c r) =
      e.bind (Fields.above
        (Dispatch.tenantFields (Dispatch.tenant? (requestContext s c r) r)) (context c r)) := by
  rw [Event.bind_bind]
  cases ho : (Dispatch.dispatch routes (requestContext s c r) c.wall r).outcome with
  | ok reaction =>
    rw [← (Dispatch.reaction_cases ho).1]
    obtain ⟨site, act⟩ := reaction
    cases site <;> rfl
  | error f =>
    cases ht : Dispatch.tenant? (requestContext s c r) r with
    | none => rfl
    | some site =>
      unfold guardedWork at he
      rw [ho] at he
      have hnone := events_of_failure (not_isOver_of_tenant ht) c.reckoning f
      exact absurd (hnone ▸ he) List.not_mem_nil

/-- A warning of the guard's as it is logged of a request, with the site if there is one. -/
def IsWarning (s : Settings) (c : Circumstances) (r : Request) (e : Event) : Prop :=
  ∃ w, Guard.Warning w ∧
    e = (w.bind (Dispatch.tenantFields (tenant? s c r))).bind (context c r)

/-- A request that breaks down logs warnings at most at its end. Any other is summed up, and what is
logged besides are warnings. -/
theorem closing_serve :
    (serve s routes c r).raised ≠ none ∧ (∀ e ∈ (serve s routes c r).closing, IsWarning s c r e) ∨
      (serve s routes c r).raised = none ∧ ∃ early late, (serve s routes c r).closing =
          early ++ (finished c (serve s routes c r).response.status).bind (context c r) :: late ∧
        (∀ e ∈ early, IsWarning s c r e) ∧ ∀ e ∈ late, IsWarning s c r e := by
  have hnone : ∀ e ∈ ([] : List Event), IsWarning s c r e := fun _ he => absurd he List.not_mem_nil
  unfold serve
  split
  · cases c.clock with
    | ok clock => exact .inr ⟨rfl, [], [], rfl, hnone, hnone⟩
    | error f => exact .inl ⟨Option.some_ne_none _, hnone⟩
  · rename_i hother
    have htenant : tenant? s c r = Dispatch.tenant? (requestContext s c r) r := if_neg hother
    have hwarnings : ∀ e ∈ warnings (context c r) (siteFields
        (Dispatch.dispatch routes (requestContext s c r) c.wall r).outcome)
        (guardedWork s routes c r), IsWarning s c r e := by
      intro e he
      obtain ⟨w, hw, rfl⟩ := List.mem_map.1 he
      exact ⟨w, Guard.warning_guarded w hw, by rw [bind_warning hw, htenant, Event.bind_bind]⟩
    rw [underDeadline_eq_ofResult]
    unfold ofResult
    cases (guardedWork s routes c r).outcome with
    | error f => exact .inl ⟨Option.some_ne_none _, hnone⟩
    | ok =>
      dsimp only
      split
      · refine .inr ⟨rfl, ?_⟩
        unfold closingEvents
        dsimp only
        split
        · exact ⟨[], _, rfl, hnone, hwarnings⟩
        · exact ⟨_, [], rfl, hwarnings, hnone⟩
      · exact .inl ⟨Option.some_ne_none _, hwarnings⟩

theorem logged_closingJournal (b : Bindings) :
    (requestBindings s c r b).logged (closingJournal s routes c r) =
      (serve s routes c r).closing := by
  have hserver : requestBindings s c r b .server = context c r := by
    unfold requestBindings
    rw [Function.update_of_ne (by decide), Function.update_self]
  have hsummary (status : Nat) : (requestBindings s c r b).logged (summaryJournal c status) =
      [(finished c status).bind (context c r)] := by
    show [(finished c status).bind (requestBindings s c r b .server)] = _
    rw [hserver]
  unfold closingJournal serve
  split
  · cases c.clock with
    | ok clock => exact hsummary _
    | error f => rfl
  · rename_i hother
    have hwork : requestBindings s c r b .work = Fields.above
        (Dispatch.tenantFields (Dispatch.tenant? (requestContext s c r) r)) (context c r) := by
      unfold requestBindings tenant?
      rw [Function.update_self, if_neg hother]
    have hwarnings (b' : Bindings) (hb' : b' .work = requestBindings s c r b .work) :
        b'.logged (Journal.events .work (guardedWork s routes c r).events) =
          warnings (context c r) (siteFields
            (Dispatch.dispatch routes (requestContext s c r) c.wall r).outcome)
            (guardedWork s routes c r) := by
      rw [Bindings.logged_events, hb', hwork]
      exact List.map_congr_left fun e he => (bind_warning he).symm
    rw [underDeadline_eq_ofResult]
    unfold ofResult
    dsimp only
    cases ho : (guardedWork s routes c r).outcome with
    | error f =>
      have hnone : (guardedWork s routes c r).events = [] := Guard.events_of_error ho
      rw [hnone]
      rfl
    | ok =>
      dsimp only
      split
      · unfold closingEvents
        split
        · rw [Bindings.logged_append, hsummary, after_summaryJournal,
            hwarnings _ (Function.update_of_ne (by decide) ..)]
          rfl
        · rw [Bindings.logged_append, Bindings.after_events, hsummary, hwarnings _ rfl]
          rfl
      · rw [Bindings.logged_append, hwarnings _ rfl]
        exact List.append_nil _

end Exchange

end Gatehouse
