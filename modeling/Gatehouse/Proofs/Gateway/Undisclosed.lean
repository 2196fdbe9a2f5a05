import Gatehouse.Proofs.Gateway.Logged
import Gatehouse.Proofs.Gateway.Probes
import Gatehouse.Proofs.Gateway.TwoRuns

/-! # What callers are not told

A question about the tables may fail with a text that is none of the caller's business. Failures of
the same kind lead to the same response, whatever their texts (`failures_undisclosed`): a
failure is told from others by its name alone, its text goes into the detail of an internal error
at most, and that is replaced by the phrase of its status. This is so in every layer, for the site,
the caller, the endpoint and the probe, since each step of a request treats such failures as one
(`opaque_veiled`). -/

namespace Gatehouse

open Traced

namespace Failure

/-- Whether a failure is the gateway's own affair: callers learn nothing of its text. -/
def isInner : Failure → Bool
  | gateway (.lookupFailed _) => true
  | gateway _ | cancelled _ => false
  | _ => true

/-- Inner failures of the same kind; their texts may differ. -/
structure SameKind (f g : Failure) : Prop where
  name : f.name = g.name
  inner : f.isInner = true
  inner' : g.isInner = true

/-- What a failure is to the database is told by its name. -/
theorem isDatabase_eq (f : Failure) :
    f.isDatabase = (f.name == "OperationalError" || f.name == "IntegrityError") := by
  cases f with
  | gateway e => cases e <;> rfl
  | unreachable cause => cases cause <;> rfl
  | _ => rfl

theorem gateway_of_inner {f : Failure} (h : f.isInner = true) :
    (∃ detail, f = .gateway (.lookupFailed detail)) ∧ f.name = "InternalLookupError" ∨
      (∀ e, f ≠ .gateway e) ∧ f.name ≠ "InternalLookupError" := by
  cases f with
  | gateway e =>
    cases e with
    | lookupFailed detail => exact .inl ⟨⟨detail, rfl⟩, rfl⟩
    | _ => cases h
  | unreachable cause => right; cases cause <;> simp [name, Unreachable.name]
  | _ => right; simp [name]

theorem not_cancelled_of_inner {f : Failure} (h : f.isInner = true) : f.isCancelled = false := by
  cases f <;> first | rfl | cases h

/-- Two failures that callers cannot tell apart. -/
def Veiled (f g : Failure) : Prop := f = g ∨ SameKind f g

theorem SameKind.internal_or_outer {f g : Failure} (h : SameKind f g) :
    (∃ d d', f = .gateway (.lookupFailed d) ∧ g = .gateway (.lookupFailed d')) ∨
      (∀ e, f ≠ .gateway e) ∧ ∀ e, g ≠ .gateway e := by
  rcases gateway_of_inner h.inner with ⟨⟨d, rfl⟩, hn⟩ | ⟨hf, hn⟩ <;>
    rcases gateway_of_inner h.inner' with ⟨⟨d', rfl⟩, hn'⟩ | ⟨hg, hn'⟩
  · exact .inl ⟨d, d', rfl, rfl⟩
  · exact absurd (h.name ▸ hn) hn'
  · exact absurd (h.name.trans hn') hn
  · exact .inr ⟨hf, hg⟩

end Failure

open Failure

theorem answerError_of_outer {f : Failure} (hf : ∀ e, f ≠ .gateway e) (s : Settings) :
    Dispatch.answerError s f = .error f := by
  cases f <;> first | rfl | exact absurd rfl (hf _)

theorem opaque_veiled : Opaque Veiled where
  refl _ := .inl rfl
  name := by
    rintro f g (rfl | h)
    · rfl
    · exact h.name
  database := by
    rintro f g (rfl | h)
    · rfl
    · rw [isDatabase_eq, isDatabase_eq, h.name]
  lookup := by
    rintro f g (rfl | h)
    · exact .inl rfl
    · exact .inr ⟨rfl, rfl, rfl⟩
  answer := by
    rintro f g (rfl | h) s
    · cases Dispatch.answerError s f with
      | ok a => exact .ok rfl
      | error f => exact .error (.inl rfl)
    rcases h.internal_or_outer with ⟨d, d', rfl, rfl⟩ | ⟨hf, hg⟩
    · exact .ok rfl
    · rw [answerError_of_outer hf, answerError_of_outer hg]
      exact .error (.inr h)
  outside := by
    rintro f g (rfl | h) plans s host
    · exact .refl (fun _ => .inl rfl) _
    rcases h.internal_or_outer with ⟨d, d', rfl, rfl⟩ | ⟨hf, hg⟩
    · exact .refl (fun _ => .inl rfl) _
    · rw [Dispatch.withoutSite_of_outer s host hf (not_cancelled_of_inner h.inner),
        Dispatch.withoutSite_of_outer s host hg (not_cancelled_of_inner h.inner'),
        Dispatch.report, Dispatch.report, Event.failureField, Event.failureField, h.name]
      exact .refl (fun _ => .inl rfl) _

/-- Work that answers is the same; if it fails, then in the same way up to the text. -/
theorem same_or_same_kind {x y : Traced α} (h : Akin Veiled true Eq x y) :
    x = y ∨ ∃ f g, SameKind f g ∧ x.outcome = .error f ∧ y.outcome = .error g ∧
      x.effects = y.effects := by
  obtain ⟨outcome, effects⟩ := x
  obtain ⟨outcome', effects'⟩ := y
  obtain ⟨trace, ho⟩ := h
  obtain rfl : effects = effects' := trace.eq
  cases ho with
  | ok e => exact .inl (e ▸ rfl)
  | error hk =>
    rcases hk with rfl | hk
    · exact .inl rfl
    · exact .inr ⟨_, _, hk, rfl, rfl, rfl⟩

/-! ### Stores -/

theorem ask_veiled {a b : Store} {q : Question} (hf : Option.Rel Veiled (a.faults q) (b.faults q))
    (he : a.explain = b.explain) (hplan : a.plan = b.plan) (sql : String) (table : Except Failure τ)
    (bounds : List Int) (answer : τ → α) :
    Akin Veiled true Eq (a.ask q sql table bounds answer)
      (b.ask q sql table bounds answer) := by
  unfold Store.ask Store.explains
  rw [he, hplan]
  generalize a.faults q = f, b.faults q = g at hf
  cases hf with
  | some h => exact .fail h
  | none => exact .refl opaque_veiled.refl _

theorem corresponds_veiled {a b : Store} (hf : ∀ q, Option.Rel Veiled (a.faults q) (b.faults q))
    (he : a.explain = b.explain) (hplan : a.plan = b.plan) (hd : a.database = b.database)
    (site : Option Int) :
    Store.Corresponds Veiled true site a b := by
  constructor
  · intro host domain
    unfold Store.siteByHost
    rw [hd]
    exact ask_veiled (hf _) he hplan _ _ _ _
  · unfold Store.activeSites
    rw [hd]
    exact ask_veiled (hf _) he hplan _ _ _ _
  · unfold Store.activeCount
    rw [hd]
    exact ask_veiled (hf _) he hplan _ _ _ _
  · intro id _ userId
    unfold Store.userOfSite
    rw [hd]
    exact ask_veiled (hf _) he hplan _ _ _ _
  · intro id _ token
    unfold Store.userByToken
    rw [hd]
    exact ask_veiled (hf _) he hplan _ _ _ _

/-! ### Exchanges -/

namespace Circumstances

/-- The same circumstances in which other questions fail, or in another way. -/
def withFaults (c : Circumstances) (faults : Question → Option Failure) : Circumstances :=
  { c with store := { c.store with faults } }

def withTicket (c : Circumstances) (ticket : Ticket) : Circumstances := { c with ticket }

end Circumstances

namespace Exchange

variable {s : Settings} {routes : List Route} {c : Circumstances} {r : Request}
  {faults : Question → Option Failure}

/-- Without time left all questions are cancelled; otherwise they fail as they are set up to. -/
theorem corresponds_hurried (h : ∀ q, Option.Rel SameKind (c.store.faults q) (faults q))
    (site : Option Int) :
    Store.Corresponds Veiled true site (requestContext s c r).store
      (requestContext s (c.withFaults faults) r).store := by
  apply corresponds_veiled
  · intro q
    show Option.Rel Veiled ((hurried _ c.time c.store).faults q)
      ((hurried _ c.time (c.withFaults faults).store).faults q)
    unfold hurried
    split
    · exact .some (.inl rfl)
    · have hq := h q
      show Option.Rel Veiled (c.store.faults q) (faults q)
      generalize c.store.faults q = f, faults q = g at hq
      cases hq with
      | none => exact .none
      | some hq => exact .some (.inr hq)
  · rfl
  · rw [plan_requestContext, plan_requestContext]
    rfl
  · rw [database_requestContext, database_requestContext]
    rfl

/-- Which failure nobody answered is all that can differ. -/
theorem underDeadline_veiled (h : ∀ q, Option.Rel SameKind (c.store.faults q) (faults q))
    (context : Fields) :
    ∃ raised, underDeadline s routes (c.withFaults faults) r context =
      { underDeadline s routes c r context with raised } := by
  have hakin : Akin Veiled true Eq
      (Dispatch.dispatch routes (requestContext s c r) c.wall r)
      (Dispatch.dispatch routes (requestContext s (c.withFaults faults) r) c.wall r) :=
    dispatch_akin opaque_veiled rfl rfl (corresponds_hurried h _) routes c.wall
  rcases same_or_same_kind hakin with e | ⟨f, g, hk, hf, hg, he⟩
  · have hsame : underDeadline s routes (c.withFaults faults) r context =
        underDeadline s routes c r context := by
      unfold underDeadline
      dsimp only
      rw [show (c.withFaults faults).wall = c.wall from rfl, ← e]
      rfl
    exact ⟨_, hsame⟩
  · refine ⟨some g, ?_⟩
    rw [underDeadline_of_failure (not_cancelled_of_inner hk.inner) hf,
      underDeadline_of_failure (c := c.withFaults faults) (not_cancelled_of_inner hk.inner') hg]
    simp only [Traced.bound, Traced.events, Traced.explanations, he]
    rfl

theorem response_withFaults (h : ∀ q, Option.Rel SameKind (c.store.faults q) (faults q)) :
    (serve s routes (c.withFaults faults) r).response = (serve s routes c r).response := by
  by_cases hp : r.path = s.statusPath
  · exact congrArg response (status_congr hp rfl rfl routes routes _)
  · have hveiled : ∃ raised, underDeadline s routes (c.withFaults faults) r (context c r) =
        { underDeadline s routes c r (context c r) with raised } := underDeadline_veiled h _
    obtain ⟨raised, e⟩ := hveiled
    rw [serve, if_neg (by simpa using hp), serve, if_neg (by simpa using hp)]
    show (underDeadline s routes (c.withFaults faults) r (context c r)).response = _
    rw [e]

/-! ### The id of a request -/

theorem response_ofResult (c : Circumstances) (r : Request) (context : Fields)
    (reaction : Traced Reaction) (result : Guard.Result) :
    (ofResult c r context reaction result).response =
      match result.outcome with
      | .ok () =>
        if hasStarted result.run.sent then withId c r (received result.run.sent) else .crash
      | .error _ => .crash := by
  unfold ofResult
  cases result.outcome with
  | ok =>
    dsimp only
    split
    · rfl
    · rfl
  | error f => rfl

/-- Either the response has the id of the request, or it is that of a breakdown. -/
theorem response_withId_cases (s : Settings) (routes : List Route) (c : Circumstances)
    (r : Request) :
    (∀ ticket, (serve s routes (c.withTicket ticket) r).response = .crash) ∨
      ∃ answer, ∀ ticket,
        (serve s routes (c.withTicket ticket) r).response =
          withId (c.withTicket ticket) r answer := by
  by_cases hp : r.path = s.statusPath
  · cases hc : c.clock with
    | ok clock =>
      refine .inr ⟨Status.respond clock (.json (.text s.version)) c.marker, fun ticket => ?_⟩
      rw [status_answer (c := c.withTicket ticket) hp hc]
      rfl
    | error f =>
      refine .inl fun ticket => ?_
      rw [status_unread (c := c.withTicket ticket) hp hc]
      rfl
  · -- the guard does not see the id
    let result : Guard.Result :=
      Guard.guarded .prompt ((Budgets.ofSettings s).choose r.path)
        (perform s (requestContext s c r).deadline
          (Dispatch.dispatch routes (requestContext s c r) c.wall r).outcome)
        (Run.begin c.reckoning (.last c.time) [] none)
    have hresult : ∀ ticket,
        (underDeadline s routes (c.withTicket ticket) r
            (context (c.withTicket ticket) r)).response =
          match result.outcome with
          | .ok () =>
            if hasStarted result.run.sent then
              withId (c.withTicket ticket) r (received result.run.sent)
            else .crash
          | .error _ => .crash := fun ticket => response_ofResult (c.withTicket ticket) r _ _ result
    have hserve : ∀ ticket, serve s routes (c.withTicket ticket) r =
        underDeadline s routes (c.withTicket ticket) r (context (c.withTicket ticket) r) :=
      fun ticket => by rw [serve, if_neg (by simpa using hp)]
    simp only [hserve, hresult]
    cases result.outcome with
    | ok =>
      cases hasStarted result.run.sent with
      | true => exact .inr ⟨_, fun _ => rfl⟩
      | false => exact .inl fun _ => rfl
    | error f => exact .inl fun _ => rfl

/-- **What went wrong inside is not told.** If questions about the tables fail with other failures
of the same kind, that is with other texts, then the caller receives the same response but for
the id of the request, whatever ticket it is given, and the very same one if the ids agree. -/
theorem failures_undisclosed (s : Settings) (routes : List Route) (c : Circumstances) (r : Request)
    (faults : Question → Option Failure) (ticket : Ticket)
    (h : ∀ q, Option.Rel SameKind (c.store.faults q) (faults q)) :
    let response := (serve s routes c r).response
    let response' := (serve s routes ((c.withFaults faults).withTicket ticket) r).response
    withoutId response' = withoutId response ∧
      (requestIdOf (c.withTicket ticket) r = requestIdOf c r → response' = response) := by
  intro response response'
  have hsame : (serve s routes ((c.withFaults faults).withTicket c.ticket) r).response = response :=
    response_withFaults h
  rcases response_withId_cases s routes (c.withFaults faults) r with hcrash | ⟨answer, hid⟩
  · rw [← hsame, hcrash]
    exact ⟨congrArg withoutId (hcrash ticket), fun _ => hcrash ticket⟩
  · rw [← hsame, hid]
    refine ⟨?_, fun e => ?_⟩
    · rw [show response' = _ from hid ticket, withoutId_withId, withoutId_withId]
    · rw [show response' = _ from hid ticket]
      exact congrArg (answer.withHeader "x-request-id") e

/-- The database fails to find the user of an API token, in two ways that the caller cannot tell
apart. -/
theorem token_failure_undisclosed :
    let sites : Sites := ⟨[⟨1, none, "a", some "a.org", false, false, .active⟩],
      by decide, by decide⟩
    let fault (text : String) : Question → Option Failure :=
      fun q => if q = .userByToken then some (.database text) else none
    let c : Circumstances :=
      .sample ⟨⟨some sites, none⟩, fault "disk I/O error", fun _ => [], none⟩
    let r : Request :=
      ⟨"server", "GET", "/api/v0/me", "", [("host", "a.org"), ("authorization", "Bearer t")], ""⟩
    let other := (c.withFaults (fault "database is locked")).withTicket ⟨"another", ⟨0, 1⟩⟩
    (serve .initial Route.sample c r).response =
        withId c r (Response.detail 500 "Internal Server Error") ∧
      withoutId (serve .initial Route.sample other r).response =
        withoutId (serve .initial Route.sample c r).response := by
  intro sites fault c r other
  have h : ∀ q, Option.Rel SameKind (c.store.faults q) (fault "database is locked" q) := by
    intro q
    cases q with
    | userByToken => exact .some ⟨rfl, rfl, rfl⟩
    | _ => exact .none
  exact ⟨by decide +kernel,
    (failures_undisclosed .initial Route.sample c r (fault "database is locked")
      ⟨"another", ⟨0, 1⟩⟩ h).1⟩

end Exchange

end Gatehouse
