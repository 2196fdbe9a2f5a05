import Gatehouse.Gateway.Application
import Gatehouse.Proofs.Gateway.RequestId

/-! # Whose line it is

Each event of a request has the fields of the request and the id of no site but its own
(`belongs_opening`, `belongs_closing`). An application serves one request after the other, while
other things happen in between; a `Step` is one of these. Between two steps nothing is bound to any
task but the one that has worked on the last request (`Idle`), so that the next step finds the log
as if it were the first (`idle_step`, `idle_run`). `lines_belong` says what follows for a request
after any steps. -/

namespace Gatehouse

open Traced

/-! ### The events of a request -/

namespace Exchange

variable {s : Settings} {routes : List Route} {c : Circumstances} {r : Request} {e : Event}

theorem name_mem_requestFields {f : String × Json} (h : f ∈ context c r) : f.1 ∈ requestFields :=
  List.mem_map_of_mem (f := Prod.fst) h

theorem nodup_context : (context c r).names.Nodup := by
  show requestFields.Nodup
  decide

theorem site_id_not_mem : "site_id" ∉ requestFields := by decide

/-- The event can be told to be one of the request: it says nothing else under the names of the
fields of the request, and names no site but its own. -/
structure Attributable (s : Settings) (c : Circumstances) (r : Request) (e : Event) : Prop where
  agrees : e.Agrees (context c r)
  site : ∀ v, ("site_id", v) ∈ e.fields → ∃ t, tenant? s c r = some t ∧ v = .int t.id

/-- The event has all fields of the request, and the id of no site but its own. -/
structure Belongs (s : Settings) (c : Circumstances) (r : Request) (e : Event) : Prop where
  carries : ∀ name v, (name, v) ∈ context c r → e.Carries name v
  site : ∀ v, ("site_id", v) ∈ e.fields → ∃ t, tenant? s c r = some t ∧ v = .int t.id

theorem Attributable.bind (h : Attributable s c r e) : Belongs s c r (e.bind (context c r)) where
  carries _ _ hmem := Event.carries_bind nodup_context h.agrees hmem
  site v hv := by
    rcases List.mem_append.1 hv with hown | hbound
    · exact h.site v hown
    · exact absurd (name_mem_requestFields (List.mem_filter.1 hbound).1) site_id_not_mem

/-- The site of the request may be bound to the event. -/
theorem Attributable.bind_tenant (h : Attributable s c r e) :
    Attributable s c r (e.bind (Dispatch.tenantFields (tenant? s c r))) := by
  cases ht : tenant? s c r with
  | none => exact (Event.bind_nil e).symm ▸ h
  | some t =>
    refine ⟨fun f hf g hg hname => ?_, fun v hv => ?_⟩
    · rcases List.mem_append.1 hf with hown | hbound
      · exact h.agrees f hown g hg hname
      · obtain rfl := List.mem_singleton.1 (List.mem_filter.1 hbound).1
        have hmem : "site_id" = g.1 := hname
        exact absurd (hmem ▸ name_mem_requestFields hg) site_id_not_mem
    · rcases List.mem_append.1 hv with hown | hbound
      · exact h.site v hown
      · have hfield := List.mem_singleton.1 (List.mem_filter.1 hbound).1
        exact ⟨t, ht, congrArg Prod.snd hfield⟩

theorem attributable_of_fields (h : ∀ f ∈ e.fields, f.1 ∉ "site_id" :: requestFields) :
    Attributable s c r e where
  agrees f hf _ hg hname := absurd (.tail _ (hname ▸ name_mem_requestFields hg)) (h f hf)
  site _ hv := absurd (.head _) (h _ hv)

theorem attributable_of_endpoint {site : Option Tenant} (h : EndpointEvent site e)
    (hs : ∀ t, site = some t → tenant? s c r = some t) : Attributable s c r e where
  agrees f hf _ hg hname := absurd (hname ▸ name_mem_requestFields hg) (h.own f hf)
  site v hv := by
    obtain ⟨t, ht, rfl⟩ := h.site _ hv rfl
    exact ⟨t, hs t ht, rfl⟩

theorem attributable_of_lookup (h : Tenant.LookupEvent r.host e) : Attributable s c r e where
  agrees f hf g hg hname := by
    have hnamed : f.1 ∈ requestFields := hname ▸ name_mem_requestFields hg
    obtain rfl := h f hf (.tail _ hnamed)
    have hhost : ("host", Json.text r.host) ∈ context c r := by simp [context]
    exact List.inj_on_of_nodup_map nodup_context hhost hg hname
  site v hv := by
    have hname : "site_id" = "host" := congrArg Prod.fst (h _ hv (.head _))
    exact absurd hname (by decide)

/-- The events of the work on a request. -/
theorem logs_dispatch (hp : r.path ≠ s.statusPath) :
    Logs (Attributable s c r) (Dispatch.dispatch routes (requestContext s c r) c.wall r) := by
  have htenant : tenant? s c r = Dispatch.tenant? (requestContext s c r) r :=
    if_neg (by simpa using hp)
  unfold Dispatch.dispatch
  split
  · refine Logs.bind ((logs_route routes _ c.wall r).mono fun e he => ?_) fun _ _ => .succeed _
    exact attributable_of_endpoint he nofun
  · rename_i he
    refine Logs.bind (Logs.attempt ((Tenant.logs_resolve _ _ r.host _).mono
      fun e he => attributable_of_lookup he)) fun found hfound => ?_
    have hresolved := Except.ok.inj hfound
    cases found with
    | ok site =>
      have hsite : tenant? s c r = some site := by
        rw [htenant, Dispatch.tenant?, if_neg he, hresolved]
        rfl
      intro e hmem
      dsimp only at hmem
      rw [Dispatch.events_onSite] at hmem
      obtain ⟨e', he', rfl⟩ := List.mem_map.1 hmem
      have hown : Attributable s c r e' :=
        attributable_of_endpoint (logs_route routes _ c.wall r e' he')
          fun t ht => Option.some.inj ht ▸ hsite
      have hbound := hown.bind_tenant
      rwa [hsite] at hbound
    | error f =>
      exact Logs.bind ((Dispatch.logs_withoutSite _ r.host f).mono
        fun e he => attributable_of_lookup he) fun _ _ => .succeed _

theorem belongs_opening (he : e ∈ (serve s routes c r).opening) : Belongs s c r e := by
  unfold serve at he
  split at he
  · cases hclock : c.clock <;> rw [hclock] at he <;> cases he
  · rename_i hother
    rw [underDeadline_eq_ofResult, (ofResult_frame _ _).opening, events_bound] at he
    obtain ⟨e', he', rfl⟩ := List.mem_map.1 he
    exact (logs_dispatch (by simpa using hother) e' he').bind

/-! ### The end of a request -/

theorem closing_cases (he : e ∈ (serve s routes c r).closing) :
    (∃ status, e = (finished c status).bind (context c r)) ∨ IsWarning s c r e := by
  rcases closing_serve with ⟨-, hwarnings⟩ | ⟨-, early, late, hclosing, hearly, hlate⟩
  · exact .inr (hwarnings e he)
  · rw [hclosing] at he
    rcases List.mem_append.1 he with he | he
    · exact .inr (hearly e he)
    · rcases List.mem_cons.1 he with rfl | he
      · exact .inl ⟨_, rfl⟩
      · exact .inr (hlate e he)

theorem belongs_closing (he : e ∈ (serve s routes c r).closing) : Belongs s c r e := by
  rcases closing_cases he with ⟨status, rfl⟩ | ⟨w, hw, rfl⟩
  · refine Attributable.bind (attributable_of_fields fun f hf => ?_)
    have hname : f.1 = "status" ∨ f.1 = "duration_ms" := by
      rcases List.mem_cons.1 hf with rfl | hf
      · exact .inl rfl
      · exact .inr (congrArg Prod.fst (List.mem_singleton.1 hf))
    rcases hname with h | h <;> rw [h] <;> decide
  · refine Attributable.bind (Attributable.bind_tenant (attributable_of_fields fun f hf => ?_))
    rcases hw.fields f hf with h | h <;> rw [h] <;> decide

end Exchange

/-! ### The steps of an application -/

namespace Application

/-- What may happen to an application that has started. -/
inductive Step
  /-- A request, with what it is given. -/
  | request (ticket : Ticket) (r : Request)
  | advance (seconds : Rat)
  | change (database : Database)
  /-- From now on questions fail in such a way. -/
  | fail (faults : Question → Option Failure)

variable (app : Application)

def take (st : Standing) : Step → Standing
  | .request ticket r => (app.request st ticket r).2
  | .advance seconds => app.advance st seconds
  | .change database => { st.settled with database }
  | .fail faults => { st with faults }

/-- All events in the log during a step. -/
def events (st : Standing) : Step → List Event
  | .request ticket r => app.requestEvents st (app.request st ticket r)
  | step => app.between st (app.take st step)

/-- What the tasks do to the log during a step. -/
def journal (st : Standing) : Step → Journal
  | .request ticket r =>
    let c := app.circumstances st.settled ticket
    Journal.events .background (app.between st st.settled) ++
      Exchange.openingJournal app.settings app.routes c r ++
      Journal.events .background (app.between st.settled (app.request st ticket r).2) ++
      Exchange.closingJournal app.settings app.routes c r
  | step => Journal.events .background (app.between st (app.take st step))

def standing (st : Standing) (steps : List Step) : Standing := steps.foldl app.take st

def allEvents : Standing → List Step → List Event
  | _, [] => []
  | st, step :: rest => app.events st step ++ allEvents (app.take st step) rest

def allJournals : Standing → List Step → Journal
  | _, [] => []
  | st, step :: rest => app.journal st step ++ allJournals (app.take st step) rest

/-- At its start the application says so, and starts its background run. -/
def startJournal : Journal :=
  [(.server, .log (startupEvent app.settings)), (.server, .fork .background)]

/-- What the tasks do to the log during a shutdown. -/
def shutdownJournal (st : Standing) (more : Nat) : Journal :=
  Journal.events .background
    (((app.history st more).drop (app.past st).length).filterMap Occurrence.event?) ++
  [(.server, .log shutdownEvent)]

/-- Nothing is bound but to the task of a request that is over. -/
structure Idle (b : Bindings) : Prop where
  server : b .server = []
  background : b .background = []

variable {app} {b : Bindings}

theorem Idle.logged_background (h : b .background = []) (events : List Event) :
    b.logged (Journal.events .background events) = events := by
  rw [Bindings.logged_events, h]
  exact (List.map_congr_left fun e _ => e.bind_nil).trans (List.map_id _)

/-- A request logs its events, whatever the background logs meanwhile, and leaves nothing behind. -/
theorem idle_request (h : Idle b) (s : Settings) (routes : List Route) (c : Circumstances)
    (r : Request) (first second : List Event) :
    let x := Exchange.serve s routes c r
    let j := Journal.events .background first ++ Exchange.openingJournal s routes c r ++
      Journal.events .background second ++ Exchange.closingJournal s routes c r
    b.logged j = first ++ x.opening ++ second ++ x.closing ∧ Idle (b.after j) := by
  intro x j
  have hduring : Exchange.requestBindings s c r b .background = [] := by
    unfold Exchange.requestBindings
    rw [Function.update_of_ne (by decide), Function.update_of_ne (by decide), h.background]
  have hopened : b.after (Journal.events .background first ++
      Exchange.openingJournal s routes c r) = Exchange.requestBindings s c r b := by
    rw [Bindings.after_append, Bindings.after_events, Exchange.after_openingJournal]
  have hwaited : b.after (Journal.events .background first ++
      Exchange.openingJournal s routes c r ++ Journal.events .background second) =
        Exchange.requestBindings s c r b := by
    rw [Bindings.after_append, hopened, Bindings.after_events]
  constructor
  · rw [Bindings.logged_append, hwaited, Exchange.logged_closingJournal, Bindings.logged_append,
      hopened, Idle.logged_background hduring, Bindings.logged_append, Bindings.after_events,
      Idle.logged_background h.background, Exchange.logged_openingJournal]
  · rw [Bindings.after_append, hwaited, Exchange.after_closingJournal]
    exact ⟨Function.update_self .., by rw [Function.update_of_ne (by decide), hduring]⟩

/-- A step logs its events and leaves nothing behind. -/
theorem idle_step (h : Idle b) (st : Standing) (step : Step) :
    b.logged (app.journal st step) = app.events st step ∧ Idle (b.after (app.journal st step)) := by
  have hbackground (st' : Standing) :
      b.logged (Journal.events .background (app.between st st')) = app.between st st' ∧
        Idle (b.after (Journal.events .background (app.between st st'))) := by
    rw [Bindings.after_events]
    exact ⟨Idle.logged_background h.background _, h⟩
  cases step with
  | advance seconds => exact hbackground _
  | change database => exact hbackground _
  | fail faults => exact hbackground _
  | request ticket r => exact idle_request h _ _ _ r _ _

/-- So do any steps. -/
theorem idle_run (app : Application) (h : Idle b) (st : Standing) (steps : List Step) :
    b.logged (app.allJournals st steps) = app.allEvents st steps ∧
      Idle (b.after (app.allJournals st steps)) := by
  induction steps generalizing b st with
  | nil => exact ⟨rfl, h⟩
  | cons step rest ih =>
    obtain ⟨hlogged, hidle⟩ := idle_step h st step
    obtain ⟨hrest, hidle'⟩ := ih hidle (app.take st step)
    unfold allJournals allEvents
    rw [Bindings.logged_append, Bindings.after_append, hlogged, hrest]
    exact ⟨rfl, hidle'⟩

theorem idle_start (app : Application) :
    Bindings.initial.logged app.startJournal = [startupEvent app.settings] ∧
      Idle (Bindings.initial.after app.startJournal) :=
  ⟨congrArg (fun e => [e]) (Event.bind_nil _), rfl, rfl⟩

theorem events_of_shutdown {st : Standing} {more : Nat} {events : List Event}
    (h : app.shutdown st more = .ok events) :
    events = ((app.history st more).drop (app.past st).length).filterMap Occurrence.event? ++
      [shutdownEvent] := by
  unfold shutdown at h
  dsimp only at h
  split at h
  · split at h
    · exact (Except.ok.inj h).symm
    · cases h
  · exact (Except.ok.inj h).symm

theorem idle_shutdown (h : Idle b) {st : Standing} {more : Nat} {events : List Event}
    (hs : app.shutdown st more = .ok events) : b.logged (app.shutdownJournal st more) = events := by
  unfold shutdownJournal
  rw [Bindings.logged_append, Bindings.after_events, Idle.logged_background h.background,
    events_of_shutdown hs]
  show _ ++ [shutdownEvent.bind (b .server)] = _
  rw [h.server, Event.bind_nil]

/-! ### Main result -/

/-- The event has none of the fields that are bound for a request. -/
def Unbound (e : Event) : Prop := ∀ name ∈ "site_id" :: requestFields, e.Lacks name

theorem unbound_of_fields {e : Event} (h : ∀ f ∈ e.fields, f.1 ∉ "site_id" :: requestFields) :
    Unbound e := fun _ hname _ hw => h _ hw hname

theorem unbound_occurrence {o : Occurrence} {e : Event} (h : o.event? = some e) : Unbound e := by
  unfold Occurrence.event? at h
  split at h
  · obtain rfl := Option.some.inj h
    exact unbound_of_fields (by simp [Event.failureField, requestFields])
  · cases h

theorem unbound_between {st st' : Standing} : ∀ e ∈ app.between st st', Unbound e := by
  intro e he
  obtain ⟨o, -, ho⟩ := List.mem_filterMap.1 he
  exact unbound_occurrence ho

/-- Where an application stands after its start and some steps. -/
def standingAfter (app : Application) (db : Database) (steps : List Step) : Standing :=
  app.standing (app.begin db) steps

/-- What the tasks have done to the log by then. -/
def journalOf (app : Application) (db : Database) (steps : List Step) : Journal :=
  app.startJournal ++ app.allJournals (app.begin db) steps

/-- A request after the start of an application and some steps, and its lines in the log. -/
structure LinesBelong (app : Application) (db : Database) (before : List Step)
    (ticket : Ticket) (r : Request) : Prop where
  /-- So far the log has the events of the start and of the steps, -/
  earlier : Bindings.initial.logged (app.journalOf db before) =
    startupEvent app.settings :: app.allEvents (app.begin db) before
  /-- and now gets those of the request, with those of the background between them. -/
  logged :
    let st := app.standingAfter db before
    let x := app.request st ticket r
    (Bindings.initial.after (app.journalOf db before)).logged
        (app.journal st (.request ticket r)) =
      app.between st st.settled ++ x.1.opening ++ app.between st.settled x.2 ++ x.1.closing
  /-- Those of the request have its fields, and the id of no site but its own. -/
  own :
    let st := app.standingAfter db before
    let x := app.request st ticket r
    ∀ e ∈ x.1.opening ++ x.1.closing,
      Exchange.Belongs app.settings (app.circumstances st.settled ticket) r e
  /-- If the application shuts down instead then the log gets the events of that. -/
  stopped : ∀ more events, app.shutdown (app.standingAfter db before) more = .ok events →
    (Bindings.initial.after (app.journalOf db before)).logged
      (app.shutdownJournal (app.standingAfter db before) more) = events
  /-- The events of the start, the background and the shutdown have no field of a request. -/
  outside : Unbound (startupEvent app.settings) ∧ (∀ st st', ∀ e ∈ app.between st st', Unbound e) ∧
    ∀ st more events, app.shutdown st more = .ok events → ∀ e ∈ events, Unbound e
  /-- The id of the request is the one that it brings along, -/
  given : ∀ c id, r.header? requestIdHeader = some id → id ≠ "" → Exchange.requestIdOf c r = id
  /-- and a request that has not broken down has its id on the response, -/
  answered :
    let st := app.standingAfter db before
    let x := (app.request st ticket r).1
    x.raised = none → (requestIdHeader,
      Exchange.requestIdOf (app.circumstances st.settled ticket) r) ∈ x.response.headers
  /-- with no other id unless its route puts one there. -/
  unique : AnonymousRoutes app.routes →
    let st := app.standingAfter db before
    let x := (app.request st ticket r).1
    x.raised = none → x.response.headers.filter (fun header => header.1 == requestIdHeader) =
      [(requestIdHeader, Exchange.requestIdOf (app.circumstances st.settled ticket) r)]
  /-- One that has broken down has the response of a breakdown. -/
  broken :
    let x := (app.request (app.standingAfter db before) ticket r).1
    x.raised ≠ none → x.response = .crash

/-- **Log lines belong to their own request**, whatever has happened before: other requests that
were answered, refused, cut off or broke down, failures of the background, changes of the tables. -/
theorem lines_belong (app : Application) (db : Database) (before : List Step) (ticket : Ticket)
    (r : Request) : LinesBelong app db before ticket r := by
  have hstart := idle_start app
  have hrun := idle_run app hstart.2 (app.begin db) before
  have hidle : Idle (Bindings.initial.after (app.journalOf db before)) := by
    unfold journalOf
    rw [Bindings.after_append]
    exact hrun.2
  exact {
    earlier := by
      unfold journalOf
      rw [Bindings.logged_append, hstart.1, hrun.1]
      rfl
    logged := (idle_step hidle _ _).1
    own := fun e he => by
      rcases List.mem_append.1 he with he | he
      · exact Exchange.belongs_opening he
      · exact Exchange.belongs_closing he
    stopped := fun _ _ hs => idle_shutdown hidle hs
    outside := by
      refine ⟨unbound_of_fields (by simp [startupEvent, requestFields]),
        fun _ _ => unbound_between, fun st more events hs e he => ?_⟩
      rw [events_of_shutdown hs] at he
      rcases List.mem_append.1 he with he | he
      · obtain ⟨o, -, ho⟩ := List.mem_filterMap.1 he
        exact unbound_occurrence ho
      · rw [List.mem_singleton.1 he]
        exact unbound_of_fields (by simp [shutdownEvent])
    given := fun c id hid hne => by
      unfold Exchange.requestIdOf
      rw [show r.header? "x-request-id" = some id from hid]
      exact if_neg (by simpa using hne)
    answered := Exchange.requestId_mem
    unique := Exchange.requestId_unique
    broken := fun hraised => by
      rcases Exchange.response_cases with ⟨hanswered, -⟩ | ⟨-, hcrash⟩
      · exact absurd hanswered hraised
      · exact hcrash }

/-- After a request that broke down and one for an unknown host, a request with an id of its own. -/
theorem own_id_after_breakdown :
    let app : Application :=
      ⟨.initial, Route.sample, .sinceEntry, fun _ _ => [], fun _ => .ok .epoch,
        fun _ => .error .notCompliant, .initial, none, 0⟩
    let ticket (id : String) : Ticket := ⟨id, ⟨0, 0⟩⟩
    let probe : Request := ⟨"server", "GET", "/status", "", [("host", "a.org")], ""⟩
    let visit : Request := ⟨"server", "GET", "/", "", [("host", "a.org")], ""⟩
    let r : Request := { visit with headers := ("x-request-id", "mine") :: visit.headers }
    let before : List Step := [.request (ticket "1") probe, .request (ticket "2") visit]
    let x := (app.request (app.standingAfter .fresh before) (ticket "3") r).1
    (app.request (app.begin .fresh) (ticket "1") probe).1.response = .crash ∧
      x.closing.map Event.name = ["request_finished"] ∧
      (∀ e ∈ x.opening ++ x.closing, e.Carries "request_id" (.text "mine")) ∧
      x.response.headers.filter (fun header => header.1 == requestIdHeader) =
        [(requestIdHeader, "mine")] := by
  intro app ticket probe visit r before x
  have h : LinesBelong app .fresh before (ticket "3") r :=
    lines_belong app .fresh before (ticket "3") r
  have hid (c : Circumstances) : Exchange.requestIdOf c r = "mine" :=
    h.given c "mine" rfl (by decide)
  have hraised : x.raised = none := Option.isNone_iff_eq_none.1 (by decide +kernel)
  have hunique := h.unique (anonymousRoutes_standard _) hraised
  rw [hid] at hunique
  refine ⟨by decide +kernel, by decide +kernel, fun e he => ?_, hunique⟩
  have hcarries := (h.own e he).carries "request_id" _ (.head _)
  rwa [hid] at hcarries

end Application

end Gatehouse
