import Gatehouse.Proofs.Auth.Chain
import Gatehouse.Proofs.Gateway.Delivery
import Gatehouse.Proofs.Tenancy.Fallback

/-! # What is logged

`Traced.Logs P` says that all events of a piece of work are such events; work that is put together
logs what its pieces log (`Logs.bind`, `Logs.rescue`). `Traced.named` are the events of a name in a
trace (`named_bind`, `named_preceded`); work that logs under other names only (`Traced.LogsOnly`)
has none of them (`LogsOnly.named_eq_nil`).

The endpoints log under names of their own and nothing that could be taken for a field of another
request or another site (`logs_route`, `logsOnly_route`). Neither does the look-up of the site
(`Tenant.logs_resolve`). The end of an exchange logs under three names (`closing_ofResult`). That a
site could not be looked up is reported once in a look-up, if the database has failed and nothing
makes up for that (`Tenant.named_resolve`), and by the gateway for any other failure that is not its
own (`Dispatch.withoutSite_of_outer`). -/

namespace Gatehouse

namespace Traced

variable {α β : Type} {names : List String} {name : String}

/-- The events of a name. -/
def named (name : String) (x : Traced α) : List Event := x.events.filter fun e => e.name == name

/-- All events of the work are such events. -/
def Logs (P : Event → Prop) (x : Traced α) : Prop := ∀ e ∈ x.events, P e

theorem events_bind (x : Traced α) (f : α → Traced β) :
    (x >>= f).events = x.events ++
      match x.outcome with
      | .ok a => (f a).events
      | .error _ => [] := by
  show (andThen x f).events = _
  unfold andThen
  cases x.outcome with
  | ok a => simp [events]
  | error e => simp [events]

theorem events_rescue (x : Traced α) (handler : Failure → Traced α) :
    (x.rescue handler).events = x.events ++
      match x.outcome with
      | .ok _ => []
      | .error f => (handler f).events := by
  unfold rescue
  cases h : x.outcome with
  | ok a => simp
  | error e => simp [events]

theorem events_bound (fields : Fields) (x : Traced α) :
    (x.bound fields).events = x.events.map (Event.bind fields) := by
  unfold bound events
  dsimp only
  rw [List.filterMap_map, List.map_filterMap]
  congr 1
  funext e
  cases e <;> rfl

theorem events_preceded (effects : List Effect) (x : Traced α) :
    (preceded effects x).events = (⟨.ok (), effects⟩ : Traced Unit).events ++ x.events :=
  List.filterMap_append

/-! ### Events of a name -/

namespace Logs

variable {P Q : Event → Prop}

theorem mono {x : Traced α} (h : Logs P x) (hPQ : ∀ e, P e → Q e) : Logs Q x :=
  fun e he => hPQ e (h e he)

theorem of_events {x : Traced α} (h : x.events = []) : Logs P x := by
  intro e he
  rw [h] at he
  cases he

theorem succeed (a : α) : Logs P (succeed a) := of_events rfl

theorem fail (f : Failure) : Logs P (fail f : Traced α) := of_events rfl

theorem ofExcept (r : Except Failure α) : Logs P (ofExcept r) := of_events rfl

theorem log {level : Level} {source : Source} {fields : Fields}
    (h : P ⟨level, source, name, fields⟩) : Logs P (log level source name fields) := by
  intro e he
  obtain rfl := List.mem_singleton.1 he
  exact h

theorem bind {x : Traced α} {f : α → Traced β} (hx : Logs P x)
    (hf : ∀ a, x.outcome = .ok a → Logs P (f a)) : Logs P (x >>= f) := by
  intro e he
  rw [events_bind] at he
  rcases List.mem_append.1 he with he | he
  · exact hx e he
  · cases ho : x.outcome with
    | ok a =>
      rw [ho] at he
      exact hf a ho e he
    | error f =>
      rw [ho] at he
      cases he

theorem rescue {x : Traced α} {handler : Failure → Traced α} (hx : Logs P x)
    (hh : ∀ f, Logs P (handler f)) : Logs P (x.rescue handler) := by
  intro e he
  rw [events_rescue] at he
  rcases List.mem_append.1 he with he | he
  · exact hx e he
  · cases ho : x.outcome with
    | ok a =>
      rw [ho] at he
      cases he
    | error f =>
      rw [ho] at he
      exact hh f e he

theorem attempt {x : Traced α} (h : Logs P x) : Logs P x.attempt := h

theorem ask {st : Store} {q : Question} {sql : String} {table : Except Failure τ}
    {bounds : List Int} {answer : τ → α} : Logs P (st.ask q sql table bounds answer) := by
  apply of_events
  unfold Store.ask
  repeat' split
  all_goals rfl

end Logs

end Traced

open Traced

/-! ### Endpoints -/

/-- What the endpoints log. -/
def endpointEvents : List String :=
  ["user_lookup_failed", "session_rejected", "no_sub_sites", "readiness_check_failed"]

/-- The fields that tell which request an event belongs to. -/
def requestFields : List String := ["request_id", "path", "method", "host"]

/-- An event of an endpoint on such a site: it has no field that tells requests apart, and the id of
no other site. -/
structure EndpointEvent (site : Option Tenant) (e : Event) : Prop where
  named : e.name ∈ endpointEvents
  own : ∀ f ∈ e.fields, f.1 ∉ requestFields
  site : ∀ f ∈ e.fields, f.1 = "site_id" → ∃ t, site = some t ∧ f.2 = .int t.id

theorem EndpointEvent.of_fields {site : Option Tenant} {level : Level} {source : Source}
    {name : String} {fields : Fields} (hn : name ∈ endpointEvents)
    (hf : ∀ f ∈ fields, f.1 ∉ "site_id" :: requestFields) :
    EndpointEvent site ⟨level, source, name, fields⟩ where
  named := hn
  own f h hr := hf f h (.tail _ hr)
  site f h hs := absurd (hs ▸ .head _) (hf f h)

variable {site : Option Tenant}

theorem logs_ofQuery {query : Traced (Option UserRow)} (h : Logs (EndpointEvent site) query) :
    Logs (EndpointEvent site) (Principal.ofQuery query) := by
  refine h.attempt.bind fun found _ => ?_
  cases found with
  | ok row => exact .succeed _
  | error f =>
    dsimp only
    split
    · exact .bind (.log (.of_fields (by decide) (by simp [requestFields, Event.failureField])))
        fun _ _ => .fail _
    · exact .fail _

theorem logs_ofSession (ctx : Context) (now : Reading) (token : String) :
    Logs (EndpointEvent site) (Principal.ofSession ctx now token) := by
  have rejected {fields : Fields} (hf : ∀ f ∈ fields, f.1 ∉ "site_id" :: requestFields) :
      Logs (EndpointEvent site) (Principal.rejectSession fields) :=
    .bind (.log (.of_fields (by decide) hf)) fun _ _ => .succeed _
  unfold Principal.ofSession
  split
  · exact .succeed _
  · split
    · exact rejected (by simp [requestFields])
    · exact .fail _
    · split
      · exact logs_ofQuery .ask
      · exact rejected (by simp [requestFields])

theorem logs_ofApiToken (ctx : Context) (token : String) :
    Logs (EndpointEvent site) (Principal.ofApiToken ctx token) := by
  unfold Principal.ofApiToken
  split
  · exact .fail _
  · split
    · exact .fail _
    · refine (logs_ofQuery .ask).bind fun user _ => ?_
      split
      · exact .succeed _
      · exact .fail _

theorem logs_identify (ctx : Context) (now : Reading) (bearer : Option String)
    (cookies : List String) : Logs (EndpointEvent site) (ctx.identify now bearer cookies) := by
  unfold Context.identify
  dsimp only
  split
  · exact (logs_ofSession _ _ _).bind fun _ _ => .succeed _
  · exact .succeed _

theorem logs_filter (check : Check) (ctx : Context) :
    Logs (EndpointEvent ctx.site) (check.filter ctx) := by
  have passIf (ok : Bool) (rejection : Failure) :
      Logs (EndpointEvent ctx.site) (Check.passIf ok rejection ctx) := by
    unfold Check.passIf
    split
    · exact .succeed _
    · exact .fail _
  cases check with
  | noSubSites =>
    show Logs _ (Check.refuseChild ctx)
    unfold Check.refuseChild
    split
    · exact .succeed _
    · rename_i t hsite
      split
      · have hname : "no_sub_sites" ∈ endpointEvents := by decide
        refine .bind (.log ⟨hname, by simp [requestFields], ?_⟩) fun _ _ => .fail _
        simp only [List.mem_cons, List.not_mem_nil, or_false]
        rintro f (rfl | rfl) h
        · exact ⟨t, hsite, rfl⟩
        · simp at h
      · exact .succeed _
  | keyAuth => exact (logs_ofApiToken ctx _).bind fun _ _ => .succeed _
  | _ => exact passIf _ _

theorem logs_judge (checks : List Check) (ctx : Context) :
    Logs (EndpointEvent ctx.site) (Filter.judge (checks.map Check.filter) ctx) := by
  induction checks generalizing ctx with
  | nil => exact .succeed _
  | cons check rest ih =>
    refine (logs_filter check ctx).attempt.bind fun result hresult => ?_
    cases result with
    | ok ctx' =>
      have hsite : ctx'.site = ctx.site := (filter_frame (Except.ok.inj hresult)).site
      exact (hsite ▸ ih ctx').bind fun _ _ => .succeed _
    | error f => exact .succeed _

theorem logs_respond (checks : List Check) (ctx : Context) (now : Reading) (r : Request) :
    Logs (EndpointEvent ctx.site) (Page.respond checks ctx now r) := by
  refine .bind ((logs_identify ctx now r.bearer? r.cookies).bind fun known hknown => ?_)
    fun _ _ => .succeed _
  refine .bind (site_of_identify hknown ▸ logs_judge checks known) fun j _ => ?_
  cases j.rejection with
  | none => exact .succeed _
  | some f => exact .fail _

theorem logs_ready (ctx : Context) : Logs (EndpointEvent site) (Probe.ready ctx) := by
  have hcount : Logs (EndpointEvent site) ctx.store.activeCount := .ask
  refine hcount.attempt.bind fun count _ => ?_
  cases count with
  | ok sites => exact .succeed _
  | error f =>
    dsimp only
    split
    · exact .bind (.log (.of_fields (by decide) (by simp [requestFields, Event.failureField])))
        fun _ _ => .succeed _
    · exact .fail _

theorem logs_devSession (ctx : Context) (now : Reading) (r : Request) :
    Logs (EndpointEvent site) (DevSession.respond ctx now r) := by
  have hwait : Logs (EndpointEvent site) ctx.wait := by
    unfold Context.wait
    split
    · exact .fail _
    · exact .succeed _
  refine hwait.bind fun _ _ => ?_
  split
  · exact .ofExcept _
  · unfold DevSession.signIn
    split
    · refine Logs.ask.bind fun user _ => ?_
      cases user with
      | none => exact .succeed _
      | some u => exact .ofExcept _
    · exact .succeed _

theorem logs_act (e : Endpoint) (ctx : Context) (now : Reading) (r : Request) :
    Logs (EndpointEvent ctx.site) (Dispatch.act e ctx now r) := by
  cases e with
  | live => exact .succeed _
  | ready => exact (logs_ready ctx).bind fun _ _ => .succeed _
  | devSession => exact (logs_devSession ctx now r).bind fun _ _ => .succeed _
  | page checks => exact (logs_respond checks ctx now r).bind fun _ _ => .succeed _
  | documentation => exact .succeed _
  | timed script => exact .succeed _

theorem logs_route (routes : List Route) (ctx : Context) (now : Reading) (r : Request) :
    Logs (EndpointEvent ctx.site) (Dispatch.route routes ctx now r) := by
  unfold Dispatch.route
  split
  · exact (logs_act _ ctx now r).rescue fun _ => .ofExcept _
  · exact .succeed _
  · exact .succeed _
  · exact .succeed _

/-- The name of the event that a site could not be looked up. -/
def siteLookup : String := "site_lookup_failed"

namespace Tenant

variable {st : Store} {host domain : String}

/-- The report of a look-up that has failed in the database. -/
def report (host : String) (f : Failure) : Event :=
  ⟨.error, .resolver, siteLookup, [("host", .text host), Event.failureField f]⟩

/-- An event of the look-up of a host: of the fields that tell requests apart it has the host at
most. -/
def LookupEvent (host : String) (e : Event) : Prop :=
  ∀ f ∈ e.fields, f.1 ∈ "site_id" :: requestFields → f = ("host", .text host)

theorem logs_settle (host : String) (found : Except Failure (Option SiteRow)) :
    Logs (LookupEvent host) (settle host found) := by
  unfold settle
  split
  · exact .succeed _
  · exact .fail _
  · exact .bind (.log (by simp [LookupEvent, requestFields, Event.failureField]))
      fun _ _ => .fail _

theorem logs_only (st : Store) (host : String) : Logs (LookupEvent host) (only st) := by
  refine Logs.bind (.attempt .ask) fun listed _ => ?_
  split
  · exact .succeed _
  · exact .succeed _
  · split
    · exact .bind (.log (by simp [LookupEvent, requestFields, Event.failureField]))
        fun _ _ => .succeed _
    · exact .fail _

theorem logs_settleOrOnly (st : Store) (host : String) (found : Except Failure (Option SiteRow)) :
    Logs (LookupEvent host) (settleOrOnly st host found) := by
  unfold settleOrOnly
  split
  · refine Logs.bind (.of_events rfl) fun _ _ => (logs_only st host).bind fun row _ => ?_
    cases row with
    | some r => exact .succeed _
    | none => exact logs_settle host _
  · refine (logs_only st host).bind fun row _ => ?_
    cases row with
    | some r => exact .succeed _
    | none => exact logs_settle host _

theorem logs_resolve (st : Store) (prod : Bool) (host domain : String) :
    Logs (LookupEvent host) (resolve st prod host domain) := by
  refine Logs.bind (.attempt .ask) fun found _ => ?_
  repeat' split
  · exact logs_settle host _
  · exact logs_settleOrOnly st host _
  · exact .fail _
  · exact logs_settle host _
  · exact logs_settleOrOnly st host _

end Tenant

namespace Dispatch

/-- The report of a look-up that has failed in another way. -/
def report (host : String) (f : Failure) : Event :=
  ⟨.error, .requests, siteLookup, [("host", .text host), Event.failureField f]⟩

theorem logs_withoutSite (s : Settings) (host : String) (f : Failure) :
    Logs (Tenant.LookupEvent host) (withoutSite s host f) := by
  unfold withoutSite
  split
  · exact .ofExcept _
  · split
    · exact .fail _
    · exact .bind (.log (by simp [Tenant.LookupEvent, requestFields, Event.failureField]))
        fun _ _ => .ofExcept _

/-- A failure that is no error of the gateway's is reported. -/
theorem withoutSite_of_outer (s : Settings) (host : String) {f : Failure}
    (hf : ∀ e, f ≠ .gateway e) (hcancelled : f.isCancelled = false) :
    withoutSite s host f = ⟨.ok (.answer (Response.detail 500 "Internal Server Error")),
      [.logged (report host f)]⟩ := by
  cases f with
  | gateway e => exact absurd rfl (hf e)
  | cancelled m => cases hcancelled
  | _ => rfl

end Dispatch

/-! ### The end of an exchange -/

namespace Guard

/-- A warning of the guard's that the deadline has passed. -/
structure Warning (e : Event) : Prop where
  name : e.name = "deadline_exceeded_after_response" ∨ e.name = "deadline_exceeded"
  fields : ∀ f ∈ e.fields, f.1 = "budget_s" ∨ f.1 = "status"

theorem warning_conclude {budget : Budget} {run : Run} :
    ∀ e ∈ (conclude .prompt budget run).events, Warning e := by
  intro e he
  unfold conclude at he
  split at he
  · obtain rfl := List.mem_singleton.1 he
    exact ⟨.inl rfl, by simp [event]⟩
  · obtain rfl := List.mem_singleton.1 he
    exact ⟨.inr rfl, by simp [event]⟩

theorem warning_guarded {budget : Budget} {work : Work} {run : Run} :
    ∀ e ∈ (guarded .prompt budget work run).events, Warning e := by
  cases h : work (run.enter budget.limit?) with
  | mk run' out =>
    rw [guarded_of h]
    split
    · exact warning_conclude
    · exact nofun

end Guard

namespace Exchange

end Exchange

end Gatehouse
