import Gatehouse.Proofs.Gateway.Attribution
import Gatehouse.Proofs.Gateway.SiteStage

/-! # Which lines have the id of the site

The id of the site is bound by the task that works on the request, once the site is loaded. What
that task logs from then on has it: the events of the route (`carries_siteEvents`) and the warnings
of the guard (`closing_site`). The events of the look-up come before and have none
(`lacks_lookupEvents`). The summary of the request is logged by the task of the server, which has
its own fields, so that it has no site either, although it comes at the end (`summary_lacks`,
`summary_of_closing`). -/

namespace Gatehouse.Exchange

open Traced

variable {s : Settings} {routes : List Route} {c : Circumstances} {r : Request} {site : Tenant}
  {e : Event}

/-! ### Before and after the site is loaded -/

/-- What is logged of a request until its site is loaded. -/
def lookupEvents (s : Settings) (c : Circumstances) (r : Request) : List Event :=
  (resolution s c r).events.map (Event.bind (context c r))

/-- What its route logs on the site. -/
def siteEvents (s : Settings) (routes : List Route) (c : Circumstances) (r : Request)
    (site : Tenant) : List Event :=
  (Dispatch.route routes (siteContext s c r site) c.wall r).events.map fun e =>
    (e.bind (Dispatch.siteField site)).bind (context c r)

/-- A request with a tenant logs its look-up and then what its route logs on the site. -/
theorem opening_of_tenant (h : tenant? s c r = some site) :
    (serve s routes c r).opening = lookupEvents s c r ++ siteEvents s routes c r site := by
  obtain ⟨hserve, htenant⟩ := of_tenant? h
  obtain ⟨hexempt, hsite⟩ := Dispatch.tenant?_eq_some.1 htenant
  have hstage := (Dispatch.dispatch_eq_stage hexempt routes c.wall).trans (stage_of_tenant hsite _)
  have hinvoked : (Dispatch.invoke (fun ctx => Dispatch.route routes ctx c.wall r)
      (requestContext s c r) site).events =
        (Dispatch.route routes (siteContext s c r site) c.wall r).events.map
          (Event.bind (Dispatch.siteField site)) :=
    Dispatch.events_onSite site
  rw [hserve, underDeadline_eq_ofResult, (ofResult_frame _ _).opening, events_bound, hstage,
    events_preceded, hinvoked, List.map_append, List.map_map]
  rfl

theorem lacks_lookupEvents (he : e ∈ lookupEvents s c r) : e.Lacks "site_id" := by
  obtain ⟨e', he', rfl⟩ := List.mem_map.1 he
  refine Event.Lacks.bind (fun v hv => ?_) site_id_not_mem
  have hlookup : Tenant.LookupEvent r.host e' := Tenant.logs_resolve _ _ _ _ e' he'
  have hname : "site_id" = "host" := congrArg Prod.fst (hlookup _ hv (.head _))
  exact absurd hname (by decide)

theorem carries_bind_site (h : ∀ v, ("site_id", v) ∈ e.fields → v = .int site.id)
    (fields : Fields) :
    ((e.bind (Dispatch.siteField site)).bind fields).Carries "site_id" (.int site.id) := by
  have hnodup : (Dispatch.siteField site).names.Nodup := List.nodup_singleton "site_id"
  refine (Event.carries_bind hnodup ?_ (List.mem_singleton_self _)).bind fields
  rintro ⟨name, v⟩ hf g hg hname
  obtain rfl := List.mem_singleton.1 hg
  obtain rfl : name = "site_id" := hname
  rw [h v hf]

theorem carries_siteEvents (he : e ∈ siteEvents s routes c r site) :
    e.Carries "site_id" (.int site.id) := by
  obtain ⟨e', he', rfl⟩ := List.mem_map.1 he
  refine carries_bind_site (fun v hv => ?_) _
  obtain ⟨t, ht, rfl⟩ := (logs_route routes (siteContext s c r site) c.wall r e' he').site _ hv rfl
  exact congrArg (fun t => Json.int (Tenant.id t)) (Option.some.inj ht).symm

/-! ### At the end -/

/-- The summary of a request. -/
def IsSummary (e : Event) : Prop := e.name = "request_finished"

instance : DecidablePred IsSummary := fun e => decEq e.name "request_finished"

theorem not_isSummary_of_warning (h : IsWarning s c r e) : ¬IsSummary e := by
  obtain ⟨w, hw, rfl⟩ := h
  intro hname
  rcases hw.name with hwarned | hwarned <;> exact absurd (hwarned.symm.trans hname) (by decide)

/-- A warning of the guard has the id of the site, -/
theorem closing_site (h : tenant? s c r = some site) (he : e ∈ (serve s routes c r).closing)
    (hs : ¬IsSummary e) : e.Carries "site_id" (.int site.id) := by
  rcases closing_cases he with ⟨status, rfl⟩ | ⟨w, hw, rfl⟩
  · exact absurd rfl hs
  · rw [h]
    refine carries_bind_site (fun v hv => absurd (hw.fields _ hv) ?_) _
    show ¬("site_id" = "budget_s" ∨ "site_id" = "status")
    decide

/-- and the summary does not. -/
theorem summary_lacks (he : e ∈ (serve s routes c r).closing) (hs : IsSummary e) :
    e.Lacks "site_id" := by
  rcases closing_cases he with ⟨status, rfl⟩ | hw
  · refine Event.Lacks.bind (fun v hv => ?_) site_id_not_mem
    have hname : "site_id" = "status" ∨ "site_id" = "duration_ms" := by
      rcases List.mem_cons.1 hv with h | hv
      · exact .inl (congrArg Prod.fst h)
      · exact .inr (congrArg Prod.fst (List.mem_singleton.1 hv))
    exact absurd hname (by decide)
  · exact absurd hs (not_isSummary_of_warning hw)

/-- A request is summed up once, with the status of its response, unless it breaks down. -/
theorem summary_of_closing (h : (serve s routes c r).raised = none) :
    (serve s routes c r).closing.filter (fun e => decide (IsSummary e)) =
      [(finished c (serve s routes c r).response.status).bind (context c r)] := by
  have hnone {events : List Event} (hw : ∀ e ∈ events, IsWarning s c r e) :
      events.filter (fun e => decide (IsSummary e)) = [] :=
    List.filter_eq_nil_iff.2 fun e he hs =>
      not_isSummary_of_warning (hw e he) (of_decide_eq_true hs)
  rcases closing_serve with ⟨hbroken, -⟩ | ⟨-, early, late, hclosing, hearly, hlate⟩
  · exact absurd h hbroken
  · rw [hclosing, List.filter_append, List.filter_cons, hnone hearly, hnone hlate]
    rfl

/-! ### Main result -/

/-- The lines of a request on such a site. -/
structure SiteLogged (s : Settings) (routes : List Route) (c : Circumstances) (r : Request)
    (site : Tenant) : Prop where
  /-- It logs its look-up and then what its route logs on the site. -/
  opening : (serve s routes c r).opening = lookupEvents s c r ++ siteEvents s routes c r site
  /-- The look-up has no site yet, -/
  before : ∀ e ∈ lookupEvents s c r, e.Lacks "site_id"
  /-- everything from then on has, -/
  after : ∀ e ∈ siteEvents s routes c r site, e.Carries "site_id" (.int site.id)
  /-- at the end, too, -/
  late : ∀ e ∈ (serve s routes c r).closing, ¬IsSummary e → e.Carries "site_id" (.int site.id)
  /-- but for the summary. -/
  summary : ∀ e ∈ (serve s routes c r).closing, IsSummary e → e.Lacks "site_id"
  /-- There is one, unless the request breaks down. -/
  summed : (serve s routes c r).raised = none →
    (serve s routes c r).closing.filter (fun e => decide (IsSummary e)) =
      [(finished c (serve s routes c r).response.status).bind (context c r)]

/-- **The id of the site reaches every later line of the request but the summary.** -/
theorem site_logged (s : Settings) (routes : List Route) (c : Circumstances) (r : Request)
    (site : Tenant) (h : tenant? s c r = some site) : SiteLogged s routes c r site where
  opening := opening_of_tenant h
  before _ := lacks_lookupEvents
  after _ := carries_siteEvents
  late _ := closing_site h
  summary _ := summary_lacks
  summed := summary_of_closing

/-- A session that is rejected, and work that goes on after its deadline. -/
theorem rejection_and_warning_have_site :
    let sites : Sites := ⟨[⟨1, none, "acme", some "acme.com", false, false, .active⟩],
      by decide, by decide⟩
    let c : Circumstances :=
      .sample ⟨⟨some sites, none⟩, fun _ => none, fun _ => [], none⟩
    let page : Request := ⟨"server", "GET", "/settings", "",
      [("host", "acme.com"), ("cookie", "key=none")], ""⟩
    let slow : Request := ⟨"server", "GET", "/slow", "", [("host", "acme.com")], ""⟩
    let routes : List Route := [⟨.only "/slow", ["GET"], .timed (.sleep 1000 .done)⟩]
    let site : Tenant := ⟨1, "acme", some "acme.com", none, false, false⟩
    (lookupEvents .initial c page = [] ∧
      (siteEvents .initial Route.sample c page site).map Event.name = ["session_rejected"] ∧
      ∀ e ∈ (serve .initial Route.sample c page).opening, e.Carries "site_id" (.int 1)) ∧
    ((serve .initial routes c slow).closing.map Event.name =
        ["deadline_exceeded", "request_finished"] ∧
      ∀ e ∈ (serve .initial routes c slow).closing, ¬IsSummary e →
        e.Carries "site_id" (.int 1)) := by
  intro sites c page slow routes site
  have hpage : SiteLogged .initial Route.sample c page site :=
    site_logged .initial Route.sample c page site (by decide +kernel)
  have hslow : SiteLogged .initial routes c slow site :=
    site_logged .initial routes c slow site (by decide +kernel)
  have hnone : lookupEvents .initial c page = [] := List.isEmpty_iff.1 (by decide +kernel)
  refine ⟨⟨hnone, by decide +kernel, fun e he => ?_⟩, by decide +kernel, hslow.late⟩
  rw [hpage.opening, hnone] at he
  exact hpage.after e he

/-- The summary of a request for a page that anyone may see has no site. -/
theorem summary_without_site :
    let sites : Sites := ⟨[⟨1, none, "acme", some "acme.com", true, false, .active⟩],
      by decide, by decide⟩
    let c : Circumstances :=
      .sample ⟨⟨some sites, none⟩, fun _ => none, fun _ => [], none⟩
    let r : Request := ⟨"server", "GET", "/", "", [("host", "acme.com")], ""⟩
    (tenant? .initial c r).map Tenant.id = some 1 ∧
      (serve .initial Route.sample c r).response.status = 200 ∧
      (serve .initial Route.sample c r).closing.map (fun e => (e.name, e.has "site_id")) =
        [("request_finished", false)] :=
  ⟨by decide +kernel, by decide +kernel, by decide +kernel⟩

end Gatehouse.Exchange
