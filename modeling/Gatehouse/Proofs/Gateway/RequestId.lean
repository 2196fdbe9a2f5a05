import Gatehouse.Proofs.Gateway.Journal
import Gatehouse.Proofs.Script.Messages

/-! # The id on a response

A response gets the id of its request when it leaves the gateway. Nothing that the gateway answers
has such a header before (`anonymous_route`), nor has anything that is sent under a deadline
(`anonymous_guardedWork`), so there is exactly one on every response but that of a request that has
broken down (`requestId_mem`, `requestId_unique`). Routes of a deployment's own must leave the
header alone. -/

namespace Gatehouse

open Traced

def requestIdHeader : String := "x-request-id"

/-- The response has no id of a request yet. -/
def Response.Anonymous (a : Response) : Prop := ∀ h ∈ a.headers, h.1 ≠ requestIdHeader

def Message.isAnonymous : Message → Bool
  | start _ headers => headers.all fun h => h.1 != requestIdHeader
  | _ => true

/-- Whatever is left to be done, the response has no id of a request from it. -/
def Act.Anonymous : Act → Prop
  | answer a => a.Anonymous
  | work script => script.Sends Message.isAnonymous

/-- No script of the routes puts an id on a response. -/
def AnonymousRoutes (routes : List Route) : Prop :=
  ∀ route ∈ routes, ∀ script, route.endpoint = .timed script →
    script.Sends Message.isAnonymous

theorem anonymousRoutes_standard (pages : String → String × String) :
    AnonymousRoutes (Route.standard pages) := by
  intro route h script hs
  simp only [Route.standard, Route.ofPage, List.mem_cons, List.not_mem_nil, or_false] at h
  rcases h with rfl | rfl | rfl | rfl | rfl | rfl | rfl | rfl | rfl | rfl | rfl | rfl <;> cases hs

/-! ### Answers -/

theorem anonymous_json (status : Nat) (body : Json) : (Response.json status body).Anonymous := by
  simp [Response.Anonymous, Response.json, Response.jsonText, requestIdHeader]

theorem anonymous_withHeader {a : Response} (h : a.Anonymous) {name : String}
    (hn : name ≠ requestIdHeader) (v : String) : (a.withHeader name v).Anonymous := by
  intro header hheader
  rcases List.mem_append.1 hheader with hold | hnew
  · exact h header hold
  · obtain rfl := List.mem_singleton.1 hnew
    exact hn

theorem anonymous_render {e : GatewayError} {flashCookie : String} {a : Response}
    (h : e.render flashCookie = .ok a) : a.Anonymous := by
  cases e with
  | unauthenticated location flash =>
    simp only [GatewayError.render] at h
    cases hc : Cookie.setHeader flashCookie flash (some GatewayError.flashLifetime) with
    | error f =>
      rw [hc] at h
      cases h
    | ok cookie =>
      rw [hc] at h
      obtain rfl := Except.ok.inj h
      simp [Response.Anonymous, requestIdHeader]
  | _ =>
    obtain rfl := Except.ok.inj h
    exact anonymous_json _ _

theorem anonymous_answerError {s : Settings} {f : Failure} {a : Response}
    (h : Dispatch.answerError s f = .ok a) : a.Anonymous := by
  cases f with
  | gateway e => exact anonymous_render h
  | _ => cases h

theorem anonymous_ready {ctx : Context} {a : Response} (h : (Probe.ready ctx).outcome = .ok a) :
    a.Anonymous := by
  obtain ⟨count, -, ha⟩ := outcome_bind_ok.1 h
  cases count with
  | ok sites =>
    obtain rfl := Except.ok.inj ha
    exact anonymous_json _ _
  | error f =>
    dsimp only at ha
    split at ha
    · obtain rfl := Except.ok.inj ha
      exact anonymous_json _ _
    · cases ha

theorem anonymous_welcome {s : Settings} {now : Reading} {userId siteId : Int} {a : Response}
    (h : DevSession.welcome s now userId siteId = .ok a) : a.Anonymous := by
  unfold DevSession.welcome at h
  cases ht : SessionToken.issue (.ofSettings s) ⟨userId, siteId⟩ now (DevSession.lifetime s) with
  | error f =>
    rw [ht] at h
    cases h
  | ok token =>
    rw [ht] at h
    cases hc : Cookie.setHeader s.sessionCookie token none with
    | error f =>
      simp only [bind, Except.bind, hc] at h
      cases h
    | ok cookie =>
      simp only [bind, Except.bind, hc] at h
      obtain rfl := Except.ok.inj h
      exact anonymous_withHeader (anonymous_json _ _) (by decide) cookie

theorem anonymous_devSession {ctx : Context} {now : Reading} {r : Request} {a : Response}
    (h : (DevSession.respond ctx now r).outcome = .ok a) : a.Anonymous := by
  obtain ⟨-, -, h⟩ := outcome_bind_ok.1 h
  split at h
  · rename_i refusal _
    cases refusal with
    | unreadable =>
      obtain rfl := Except.ok.inj h
      exact anonymous_json _ _
    | faulty f input =>
      simp only [DevSession.Refusal.respond, Traced.ofExcept] at h
      split at h
      · cases h
      · split at h
        · cases h
        · obtain rfl := Except.ok.inj h
          exact anonymous_json _ _
  · unfold DevSession.signIn at h
    split at h
    · obtain ⟨user, -, ha⟩ := outcome_bind_ok.1 h
      cases user with
      | none =>
        obtain rfl := Except.ok.inj ha
        exact anonymous_json _ _
      | some u => exact anonymous_welcome ha
    · obtain rfl := Except.ok.inj h
      exact anonymous_json _ _

/-! ### Routes -/

namespace Dispatch

variable {routes : List Route} {ctx : Context} {now : Reading} {r : Request}

theorem anonymous_act {e : Endpoint}
    (he : ∀ script, e = .timed script → script.Sends Message.isAnonymous) {a : Act}
    (h : (act e ctx now r).outcome = .ok a) : a.Anonymous := by
  cases e with
  | live =>
    obtain rfl := Except.ok.inj h
    exact anonymous_json _ _
  | ready =>
    obtain ⟨answer, hanswer, ha⟩ := outcome_bind_ok.1 h
    obtain rfl := Except.ok.inj ha
    exact anonymous_ready hanswer
  | devSession =>
    obtain ⟨answer, hanswer, ha⟩ := outcome_bind_ok.1 h
    obtain rfl := Except.ok.inj ha
    exact anonymous_devSession hanswer
  | page checks =>
    obtain ⟨answer, hanswer, ha⟩ := outcome_bind_ok.1 h
    obtain ⟨passed, -, hpage⟩ := outcome_bind_ok.1 hanswer
    obtain rfl := Except.ok.inj ha
    obtain rfl := Except.ok.inj hpage
    exact anonymous_json _ _
  | documentation contentType text =>
    obtain rfl := Except.ok.inj h
    simp [Act.Anonymous, Response.Anonymous, page, requestIdHeader]
  | timed script =>
    obtain rfl := Except.ok.inj h
    exact he script rfl

theorem mem_of_find {method path : String} {e : Endpoint}
    (h : Route.find routes method path = .found e) : ∃ route ∈ routes, route.endpoint = e := by
  unfold Route.find at h
  dsimp only at h
  cases hfound : (routes.filter fun r => r.hasPath path).find? fun r =>
      r.methods.contains method with
  | some route =>
    rw [hfound] at h
    exact ⟨route, (List.mem_filter.1 (List.mem_of_find?_eq_some hfound)).1,
      Destination.found.inj h⟩
  | none =>
    rw [hfound] at h
    dsimp only at h
    split at h
    · cases h
    · split at h <;> cases h

/-- Whatever a route answers has no id of a request. -/
theorem anonymous_route (hr : AnonymousRoutes routes) {a : Act}
    (h : (route routes ctx now r).outcome = .ok a) : a.Anonymous := by
  unfold route at h
  split at h
  · rename_i e hfound
    obtain ⟨own, hown, rfl⟩ := mem_of_find hfound
    cases ho : (act own.endpoint ctx now r).outcome with
    | ok a' =>
      rw [outcome_rescue_ok ho] at h
      obtain rfl := Except.ok.inj h
      exact anonymous_act (hr own hown) ho
    | error f =>
      rw [outcome_rescue_error ho] at h
      replace h : (answerError ctx.settings f).map Act.answer = .ok a := h
      cases hanswer : answerError ctx.settings f with
      | error g =>
        rw [hanswer] at h
        cases h
      | ok answer =>
        rw [hanswer] at h
        obtain rfl := Except.ok.inj h
        exact anonymous_answerError hanswer
  · obtain rfl := Except.ok.inj h
    exact anonymous_withHeader (anonymous_json _ _) (by decide) _
  · obtain rfl := Except.ok.inj h
    simp [Act.Anonymous, Response.Anonymous, requestIdHeader]
  · obtain rfl := Except.ok.inj h
    exact anonymous_json _ _

theorem anonymous_withoutSite {s : Settings} {host : String} {f : Failure} {a : Act}
    (h : (withoutSite s host f).outcome = .ok a) : a.Anonymous := by
  have hrendered {e : GatewayError} (h : (e.render s.flashCookie).map Act.answer = .ok a) :
      a.Anonymous := by
    cases hanswer : e.render s.flashCookie with
    | error g =>
      rw [hanswer] at h
      cases h
    | ok answer =>
      rw [hanswer] at h
      obtain rfl := Except.ok.inj h
      exact anonymous_render hanswer
  unfold withoutSite at h
  split at h
  · exact hrendered h
  · split at h
    · cases h
    · exact hrendered (e := .lookupFailed "") h

theorem anonymous_dispatch (hr : AnonymousRoutes routes) {reaction : Reaction}
    (h : (dispatch routes ctx now r).outcome = .ok reaction) : reaction.act.Anonymous := by
  rcases (reaction_cases h).2 with ⟨site, hact⟩ | ⟨f, hact⟩
  · exact anonymous_route hr hact
  · exact anonymous_withoutSite hact

end Dispatch

/-! ### What is sent -/

namespace Exchange

open Run

theorem isAnonymous_start {a : Response} (h : a.Anonymous) (status : Option Json) :
    Message.isAnonymous (.start status a.headers) = true :=
  List.all_eq_true.2 fun header hheader => bne_iff_ne.2 (h header hheader)

theorem delivers_deliver {a : Response} (h : a.Anonymous) :
    Keeps (Delivers Message.isAnonymous) (deliver a) :=
  .andThen (delivers_noteAndSend _ (isAnonymous_start h _)) (delivers_noteAndSend _ rfl)

theorem delivers_deliverResult {answer : Except Failure Response}
    (h : ∀ a, answer = .ok a → a.Anonymous) :
    Keeps (Delivers Message.isAnonymous) (deliverResult answer) := by
  cases answer with
  | ok a => exact delivers_deliver (h a rfl)
  | error f => exact fun _ => delivers_of_sent rfl

theorem delivers_giveUp (f : Failure) : Keeps (Delivers Message.isAnonymous) (giveUp f) := by
  have hfail : Keeps (Delivers Message.isAnonymous) (Work.fail f) :=
    fun _ => delivers_of_sent rfl
  have hsuspend : Keeps (Delivers Message.isAnonymous) (suspend 0) :=
    fun r => delivers_of_sent (sent_suspend 0 r)
  unfold giveUp
  split
  · exact .andThen hsuspend (.andThen hsuspend hfail)
  · exact hfail

theorem anonymous_leftOver {deadline : Binary64} {now : Rat} {a : Response}
    (h : leftOver deadline now = .ok a) : a.Anonymous := by
  unfold leftOver at h
  split at h
  · obtain rfl := Except.ok.inj h
    exact anonymous_json _ _
  · cases h

theorem delivers_perform {s : Settings} (deadline : Binary64)
    {outcome : Except Failure Reaction}
    (h : ∀ reaction, outcome = .ok reaction → reaction.act.Anonymous) :
    Keeps (Delivers Message.isAnonymous) (perform s deadline outcome) := by
  cases outcome with
  | error f => exact delivers_giveUp f
  | ok reaction =>
    obtain ⟨site, act⟩ := reaction
    cases act with
    | answer a => exact delivers_deliver (h _ rfl)
    | work script =>
      intro r
      have hscript := delivers_exec .prompt (h _ rfl) r
      unfold perform
      dsimp only
      cases e : exec .prompt script r with
      | mk run out =>
        rw [e] at hscript
        cases out with
        | ok => exact hscript.trans (delivers_deliverResult (fun _ => anonymous_leftOver) run)
        | error f =>
          exact hscript.trans (delivers_deliverResult (fun _ => anonymous_answerError) run)

/-- The guard's own answer has no id either. -/
theorem delivers_guarded {work : Work} (hw : Keeps (Delivers Message.isAnonymous) work)
    (budget : Budget) (run : Run) :
    Delivers Message.isAnonymous run (Guard.guarded .prompt budget work run).run := by
  have hwork := hw (run.enter budget.limit?)
  cases e : work (run.enter budget.limit?) with
  | mk r out =>
    rw [e] at hwork
    rw [Guard.guarded_of e]
    split
    · unfold Guard.conclude
      split
      · exact hwork
      · have hanswer : Keeps (Delivers Message.isAnonymous) (Guard.answer .prompt) :=
          .andThen (delivers_send _ (by decide)) (delivers_send _ rfl)
        exact Delivers.trans hwork (hanswer r.left)
    · exact hwork

theorem anonymous_received {sent : List Sent}
    (h : ∀ m ∈ sent, m.message.isAnonymous = true) : (received sent).Anonymous := by
  unfold received
  refine List.foldlRecOn sent _ (fun _ hnone => absurd hnone List.not_mem_nil) fun a ha m hm => ?_
  have hown := h m hm
  split
  · rename_i status headers hmessage
    rw [hmessage] at hown
    intro header hheader
    exact bne_iff_ne.1 (List.all_eq_true.1 hown header (List.mem_filter.1 hheader).1)
  · exact ha
  · exact ha

/-! ### The whole request -/

variable {s : Settings} {routes : List Route} {c : Circumstances} {r : Request}

theorem anonymous_guardedWork (hr : AnonymousRoutes routes) :
    (received (guardedWork s routes c r).run.sent).Anonymous := by
  refine anonymous_received fun m hm => ?_
  have hwork : Keeps (Delivers Message.isAnonymous) (perform s (requestContext s c r).deadline
      (Dispatch.dispatch routes (requestContext s c r) c.wall r).outcome) :=
    delivers_perform _ fun _ ho => Dispatch.anonymous_dispatch hr ho
  rcases delivers_guarded hwork _ _ m hm with hold | hnew
  · exact absurd hold List.not_mem_nil
  · exact hnew

theorem anonymous_status (clock : ProcessClock) (version : Version) (marker : Marker) :
    (Status.respond clock version marker).Anonymous := by
  unfold Status.respond
  split
  · simp [Response.Anonymous, Response.plain, requestIdHeader]
  · split
    · simp [Response.Anonymous, Response.plain, requestIdHeader]
    · simp [Response.Anonymous, Response.jsonText, requestIdHeader]

theorem requestId_withId {a : Response} (h : a.Anonymous) :
    (withId c r a).headers.filter (fun header => header.1 == requestIdHeader) =
      [(requestIdHeader, requestIdOf c r)] := by
  have hnone : a.headers.filter (fun header => header.1 == requestIdHeader) = [] :=
    List.filter_eq_nil_iff.2 fun header hheader hname => h header hheader (eq_of_beq hname)
  show (a.headers ++ [(requestIdHeader, requestIdOf c r)]).filter _ = _
  rw [List.filter_append, hnone]
  rfl

/-- The id of a request is put on a response that has none yet, unless the request has broken
down. -/
theorem response_cases :
    (serve s routes c r).raised = none ∧
        (∃ a, (serve s routes c r).response = withId c r a ∧
          (AnonymousRoutes routes → a.Anonymous)) ∨
      (serve s routes c r).raised ≠ none ∧ (serve s routes c r).response = .crash := by
  unfold serve
  split
  · cases c.clock with
    | ok clock => exact .inl ⟨rfl, _, rfl, fun _ => anonymous_status _ _ _⟩
    | error f => exact .inr ⟨Option.some_ne_none _, rfl⟩
  · rw [underDeadline_eq_ofResult]
    unfold ofResult
    cases (guardedWork s routes c r).outcome with
    | ok =>
      dsimp only
      split
      · exact .inl ⟨rfl, _, rfl, anonymous_guardedWork⟩
      · exact .inr ⟨Option.some_ne_none _, rfl⟩
    | error f => exact .inr ⟨Option.some_ne_none _, rfl⟩

/-- A request that has not broken down has its id on the response, -/
theorem requestId_mem (h : (serve s routes c r).raised = none) :
    (requestIdHeader, requestIdOf c r) ∈ (serve s routes c r).response.headers := by
  rcases response_cases with ⟨-, a, ha, -⟩ | ⟨hbroken, -⟩
  · rw [ha]
    exact List.mem_append_right _ (List.mem_singleton_self _)
  · exact absurd h hbroken

/-- and no other. -/
theorem requestId_unique (hr : AnonymousRoutes routes) (h : (serve s routes c r).raised = none) :
    (serve s routes c r).response.headers.filter (fun header => header.1 == requestIdHeader) =
      [(requestIdHeader, requestIdOf c r)] := by
  rcases response_cases with ⟨-, a, ha, hanonymous⟩ | ⟨hbroken, -⟩
  · rw [ha]
    exact requestId_withId (hanonymous hr)
  · exact absurd h hbroken

end Exchange

end Gatehouse
