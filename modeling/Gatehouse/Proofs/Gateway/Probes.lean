import Gatehouse.Proofs.Gateway.Authorization

/-! # The probes answer whatever the host and the data

The liveness probe needs no site, asks no table and has no work left to do, so that its answer is
always the same (`live_answer`), provided that its deadline is not due together with its start. The
status probe does not even have a deadline: its whole exchange is known beforehand
(`status_answer`).

A budget can be positive and still too small to move a moment of the event loop, or to move it past
the timers that go off together. Then the deadline cuts the answer off, before its start or after it
(`tiny_budget_cuts_answer`). -/

namespace Gatehouse.Exchange

/-! ### The liveness probe -/

def livePath : String := "/healthz"

/-- A request for the liveness probe: its path is no other probe's and needs no site, and its
deadline is not due together with its start. -/
structure AsksLive (s : Settings) (c : Circumstances) (r : Request) : Prop where
  method : r.method = "GET"
  path : r.path = livePath
  distinct : s.statusPath ≠ livePath
  exempt : s.exemptPaths = Settings.initial.exemptPaths
  ahead : (Budget.seconds s.defaultSeconds).isOver c.time = false

section

variable {s : Settings} {c : Circumstances} {r : Request} {pages : String → String × String}

theorem find_live (own : List Route) :
    Route.find (Route.standard pages ++ own) "GET" livePath = .found .live :=
  Route.find_append rfl own

theorem dispatch_live (hm : r.method = "GET") (hp : r.path = livePath) {ctx : Context}
    (he : ctx.settings.exemptPaths = Settings.initial.exemptPaths) (own : List Route)
    (now : Reading) : Dispatch.dispatch (Route.standard pages ++ own) ctx now r =
      .succeed ⟨none, .answer Probe.live⟩ := by
  have hexempt : Dispatch.isExempt ctx.settings r.path = true := by
    rw [Dispatch.isExempt, he, hp]
    rfl
  unfold Dispatch.dispatch
  rw [if_pos hexempt, Dispatch.route, hm, hp, find_live]
  rfl

theorem choose_live (b : Budgets) : b.choose livePath = b.default := rfl

theorem live_answer (h : AsksLive s c r) (own : List Route) :
    (serve s (Route.standard pages ++ own) c r).response = withId c r Probe.live ∧
      (serve s (Route.standard pages ++ own) c r).raised = none := by
  have hother : ¬(r.path == s.statusPath) = true := by
    rw [h.path]
    simpa using h.distinct.symm
  have hahead : ((Budgets.ofSettings s).choose r.path).isOver c.time = false := by
    rw [h.path, choose_live]
    exact h.ahead
  have hdispatch : (Dispatch.dispatch (Route.standard pages ++ own) (requestContext s c r) c.wall
      r).outcome = .ok ⟨none, .answer Probe.live⟩ := by
    rw [dispatch_live h.method h.path h.exempt]
    rfl
  rw [serve, if_neg hother]
  exact response_of_answer hahead hdispatch

/-! ### The status probe -/

theorem status_answer (hp : r.path = s.statusPath) {clock : ProcessClock}
    (hc : c.clock = .ok clock) (routes : List Route) :
    let answer := Status.respond clock (.json (.text s.version)) c.marker
    serve s routes c r =
      immediate c (withId c r answer) none [(finished c answer.status).bind (context c r)] := by
  rw [serve, if_pos (by simpa using hp), hc]

theorem status_unread (hp : r.path = s.statusPath) {f : Failure} (hc : c.clock = .error f)
    (routes : List Route) : serve s routes c r = immediate c .crash (some f) [] := by
  rw [serve, if_pos (by simpa using hp), hc]

theorem status_congr {s' : Settings} (hp : r.path = s.statusPath)
    (hpath : s'.statusPath = s.statusPath) (hversion : s'.version = s.version)
    (routes routes' : List Route) (store : Store) :
    serve s' routes' { c with store } r = serve s routes c r := by
  unfold serve
  rw [if_pos (by simpa using hp.trans hpath.symm), if_pos (by simpa using hp), hversion]
  rfl

end

/-! ### Both -/

/-- A response but for the id of its request. -/
def withoutId (a : Response) : Response :=
  { a with headers := a.headers.filter fun h => h.1 != "x-request-id" }

theorem withoutId_withId (c : Circumstances) (r : Request) (a : Response) :
    withoutId (withId c r a) = withoutId a := by
  unfold withoutId withId Response.withHeader
  simp

/-- **The probes answer whatever the host and the data.** The liveness probe always gives its one
answer. The status probe tells the clock, the version and the marker, and the exchange depends
neither on the tables nor on any budget. But for the ids of the requests, the responses of any two
requests for the liveness probe are the same, and so are those of two requests for the status
probe that have the same to tell. -/
theorem probes_answer :
    (∀ s pages own c r, AsksLive s c r →
      (serve s (Route.standard pages ++ own) c r).response = withId c r Probe.live ∧
        (serve s (Route.standard pages ++ own) c r).raised = none) ∧
    (∀ s routes c r clock, r.path = s.statusPath → c.clock = .ok clock →
      let answer := Status.respond clock (.json (.text s.version)) c.marker
      serve s routes c r =
        immediate c (withId c r answer) none [(finished c answer.status).bind (context c r)]) ∧
    (∀ s s' routes routes' c store r, r.path = s.statusPath →
      s'.statusPath = s.statusPath → s'.version = s.version →
      serve s' routes' { c with store } r = serve s routes c r) ∧
    (∀ s s' pages pages' own own' c c' r r', AsksLive s c r → AsksLive s' c' r' →
      withoutId (serve s (Route.standard pages ++ own) c r).response =
        withoutId (serve s' (Route.standard pages' ++ own') c' r').response) ∧
    (∀ s s' routes routes' c c' r r', r.path = s.statusPath → r'.path = s'.statusPath →
      c'.clock = c.clock → s'.version = s.version → c'.marker = c.marker →
      withoutId (serve s routes c r).response = withoutId (serve s' routes' c' r').response) := by
  refine ⟨fun s pages own c r h => live_answer h own, fun s routes c r clock hp hc => ?status,
    fun s s' routes routes' c store r hp hpath hversion => ?congr, ?live, ?both⟩
  case status => exact status_answer hp hc routes
  case congr => exact status_congr hp hpath hversion routes routes' store
  case live =>
    intro s s' pages pages' own own' c c' r r' h h'
    rw [(live_answer h own).1, (live_answer h' own').1, withoutId_withId, withoutId_withId]
  case both =>
    intro s s' routes routes' c c' r r' hp hp' hclock hversion hmarker
    cases hc : c.clock with
    | ok clock =>
      rw [status_answer hp hc routes, status_answer hp' (hclock.trans hc) routes', hversion,
        hmarker]
      dsimp only [immediate]
      rw [withoutId_withId, withoutId_withId]
    | error f =>
      rw [status_unread hp hc routes, status_unread hp' (hclock.trans hc) routes']
      rfl

/-- Both probes under the settings of the start, with a host that names nothing, over no tables, and
with queries that fail. -/
theorem probes_without_tables :
    let store : Store := ⟨⟨none, none⟩, fun _ => some (.value "boom"), fun _ => [], none⟩
    let clock : ProcessClock := ⟨.earliest, .earliest, true⟩
    let c : Circumstances := { Circumstances.sample store with clock := .ok clock }
    let live : Request := ⟨"server", "GET", livePath, "", [("host", "[")], ""⟩
    let status : Request := ⟨"server", "PUT", "/status", "", [("host", "[")], ""⟩
    (serve .initial (Route.sample ++ []) c live).response = withId c live Probe.live ∧
      (serve .initial [] c status).response =
        withId c status (Status.respond clock (.json (.text "0.1.0")) .initial) := by
  intro store clock c live status
  have hlive : AsksLive .initial c live :=
    ⟨rfl, rfl, by decide, rfl, by decide +kernel⟩
  obtain ⟨hanswer, hstatus, -⟩ := probes_answer
  exact ⟨(hanswer .initial _ [] c live hlive).1,
    congrArg response (hstatus .initial [] c status clock rfl rfl)⟩

/-- Budgets that are positive and too small. After a thousand seconds on the event loop the first
does not move the deadline, and the request for the liveness probe breaks down without an answer.
The second moves it by less than timers are told apart, and the answer loses its body. -/
theorem tiny_budget_cuts_answer :
    let within (exponent : Int) : Settings :=
      { Settings.initial with defaultSeconds := .ofDecimal false 1 exponent }
    let c : Circumstances := .sample ⟨⟨none, none⟩, fun _ => none, fun _ => [], none⟩
    let r : Request := ⟨"server", "GET", livePath, "", [], ""⟩
    let answered (exponent : Int) : Exchange := serve (within exponent) Route.sample c r
    (∀ exponent ∈ [-14, -10], (within exponent).statusPath ≠ livePath ∧
      (within exponent).exemptPaths = Settings.initial.exemptPaths ∧
      ∃ t, (within exponent).defaultSeconds.toRat? = some t ∧ 0 < t) ∧
      (answered (-14)).response = .crash ∧ (answered (-14)).raised = some noResponse ∧
      (answered (-14)).closing.map Event.name = ["deadline_exceeded_after_response"] ∧
      (answered (-10)).response = { withId c r Probe.live with body := "" } := by
  intro within c r answered
  refine ⟨fun exponent h => ?_, by decide +kernel, by decide +kernel, by decide +kernel,
    by decide +kernel⟩
  simp only [List.mem_cons, List.not_mem_nil, or_false] at h
  rcases h with rfl | rfl
  · exact ⟨by decide, rfl, _, rfl, by decide +kernel⟩
  · exact ⟨by decide, rfl, _, rfl, by decide +kernel⟩

end Gatehouse.Exchange
