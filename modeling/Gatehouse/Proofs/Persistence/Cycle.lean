import Gatehouse.Persistence.Periodic
import Gatehouse.Proofs.Script.Company
import Gatehouse.Proofs.Script.Requests

/-! # One cycle after the other

Between two jobs no scope is open, and the only request for cancellation is the one that came from
outside, if it has come: the run is `Ready`. From such a run a cycle either ends in the
cancellation before its job is called, or calls one job, which has a conclusion and leaves the
run ready again (`cycle_cases`). A history is made of such cycles: whatever happens in it is the
call or the conclusion of one, or that end (`happening_cases`). -/

namespace Gatehouse

open Moment

/-! ### Ready runs -/

/-- A run between two jobs, beside which others wake up at `visits` and which is cancelled in the
turn `stop`, if at all. -/
structure Run.Ready (visits : List Rat) (stop : Option Waking) (r : Run) : Prop where
  orderly : r.Orderly
  visits : r.visits = visits
  alarms : r.alarms = []
  interrupt : r.interrupt = stop.map .stop ∨ r.interrupt = none
  passed : r.interrupt = none → ∀ w ∈ stop, w.time ≤ r.now
  requests : r.requests + r.coming = stop.toList.length

namespace Run

variable {visits : List Rat} {stop : Option Waking} {r : Run}

/-- Moments at which a run may begin, with others beside it. -/
structure Sound (start : Waking) (visits : List Rat) (stop : Option Waking) : Prop where
  begins : nearest start.time = start.time
  others : ∀ v ∈ visits, nearest v = v
  stops : ∀ w ∈ stop, nearest w.time = w.time ∧ start.time ≤ w.time

theorem ready_begin {reckoning : Reckoning} {start : Waking} (h : Sound start visits stop) :
    Ready visits stop (Run.begin reckoning start visits (stop.map .stop)) where
  orderly := by
    refine ⟨h.begins, h.others, ?_, by simp [Rounded, Run.begin, hastened]⟩
    intro i hi
    cases hs : stop with
    | none => simp [Run.begin, hastened, hs] at hi
    | some w =>
      obtain rfl : i = .stop w := by simpa [Run.begin, hastened, hs] using hi.symm
      exact ⟨w, rfl, h.stops w hs⟩
  visits := rfl
  alarms := rfl
  interrupt := by cases stop <;> exact .inl rfl
  passed := by cases stop <;> simp [Run.begin, hastened]
  requests := by cases stop <;> rfl

theorem Ready.stop_of_interrupt {w : Waking} (h : Ready visits stop r)
    (hi : r.interrupt = some (.stop w)) : stop = some w := by
  rcases h.interrupt with e | e <;> rw [hi] at e
  · cases stop with
    | none => cases e
    | some w' => simpa using e.symm
  · cases e

/-- No limit is open, so that only a cancellation from outside makes requests. -/
theorem Ready.onward {r' : Run} (h : Ready visits stop r) (ho : Onward r r') (hs : Settles r r') :
    Ready visits stop r' := by
  have ha : r'.alarms = [] := List.forall₂_nil_left_iff.1 (h.alarms ▸ hs.alarms)
  refine ⟨ho.orderly, ho.visits.trans h.visits, ha, ?_, ?_, ?_⟩
  · rcases ho.interrupt with e | ⟨_, _, e, _⟩
    · rw [e]
      exact h.interrupt
    · exact .inr e
  · intro hnone w hw
    rcases ho.interrupt with e | ⟨w', hi, _, hle⟩
    · exact (h.passed (e ▸ hnone) w hw).trans ho.now
    · rw [h.stop_of_interrupt hi] at hw
      cases hw
      exact hle
  · have hq := hs.requests
    have : r.rungs = 0 := by simp [Run.rungs, h.alarms]
    have : r'.rungs = 0 := by simp [Run.rungs, ha]
    have := h.requests
    omega

theorem Ready.covered (h : Ready visits stop r) : r.rungs ≤ r.requests := by
  simp [Run.rungs, h.alarms]

theorem Ready.dues (h : Ready visits stop r) : r.dues = [] := by
  rw [h.orderly.dues, h.alarms]
  rfl

theorem Ready.exec (h : Ready visits stop r) (script : Script) :
    Onward r (Run.exec .prompt script r).1 ∧
      Ready visits stop (Run.exec .prompt script r).1 := by
  have ho := onward_exec .prompt script h.orderly
  exact ⟨ho, h.onward ho (accounts_exec .prompt script r h.covered)⟩

/-- A script that does not raise `CancelledError` itself ends in it only if it is cancelled from
outside. -/
theorem Ready.not_cancelled (h : Ready visits none r) {script : Script}
    (hs : script.NeverCancels) (m : String) :
    (Run.exec .prompt script r).2 ≠ .error (.cancelled m) := by
  intro he
  have := requests_of_cancelled hs h.covered he
  have := (h.exec script).2.requests
  simp at this
  omega

/-! ### An interval -/

/-- A sleep between two jobs ends when it is due, unless others carry it along, or the cancellation
comes before that. -/
theorem Ready.suspend {seconds : Rat} (hs : 0 < seconds) (h : Ready visits stop r) :
    (∃ w, r.interrupt = some (.stop w) ∧ Run.suspend seconds r = stopped w r) ∨
      (Run.suspend seconds r).2 = .ok () ∧
        (Run.suspend seconds r).1.now = Waking.carried (after r.now seconds) r.now visits ∧
        (Run.suspend seconds r).1.interrupt = r.interrupt ∧
        ∀ w, r.interrupt = some (.stop w) →
          (Run.suspend seconds r).1.waking.precedes w = true := by
  rcases suspend_cases seconds h.orderly with ⟨e, hstop⟩ | hstop
  · right
    have hturn : (turnAfter seconds r).1 =
        .timer (Waking.carried (after r.now seconds) r.now visits) (after r.now seconds)
          r.waking := by
      simp only [turnAfter, not_le.2 hs, h.dues, h.visits, if_false, List.any_nil,
        Bool.false_eq_true]
      rfl
    rw [e]
    exact ⟨by simp [resume, h.dues], congrArg Waking.time hturn, h.orderly.interrupt_resume _ _,
      hstop⟩
  · exact .inl hstop

end Run

/-! ### Occurrences -/

namespace Occurrence

/-- Whether the run ends with it. -/
def isEnd (o : Occurrence) : Bool := o.failure?.isSome

/-- What the clock showed when a job had persisted. -/
def reading? (o : Occurrence) : Option Timestamp :=
  match o.what with
  | .persisted t => some t
  | _ => none

end Occurrence

namespace Periodic

open Run

/-- The conclusion of a job with the given result, before which the clock was read `readings`
times. -/
structure Concludes (s : Schedule) (readings : Nat) (result : Run × Outcome) (c : Occurrence) :
    Prop where
  waking : c.waking = result.1.waking
  early : c.early = result.1.interrupt.isSome
  returned : ∀ t, result.2 = .ok () → s.clock readings result.1.now = .ok t →
    c.what = .persisted t
  unread : ∀ f, result.2 = .ok () → s.clock readings result.1.now = .error f → c.what = .ended f
  failed : ∀ f, result.2 = .error f → f.isCancelled = false → c.what = .failed f
  cancelled : ∀ f, result.2 = .error f → f.isCancelled = true → c.what = .ended f

/-- A job has one conclusion; the run goes on from it unless it is an end. -/
theorem conclude_spec (s : Schedule) (p : Periodic) (result : Run × Outcome) :
    ∃ c, Concludes s p.readings result c ∧ c.isCall = false ∧
      conclude s p result = (c, if c.isEnd then none else
        some ⟨result.1, p.calls + 1, p.readings + c.reading?.toList.length⟩) := by
  obtain ⟨r, out⟩ := result
  cases out with
  | ok =>
    cases hc : s.clock p.readings r.now with
    | ok t =>
      refine ⟨occurrence r (.persisted t), ?_, rfl, by simp only [conclude, hc]; rfl⟩
      constructor <;> simp [hc, occurrence]
    | error f =>
      refine ⟨occurrence r (.ended f), ?_, rfl, by simp only [conclude, hc]; rfl⟩
      constructor <;> simp [hc, occurrence]
  | error f =>
    cases hf : f.isCancelled with
    | true =>
      refine ⟨occurrence r (.ended f), ?_, rfl, by simp only [conclude, hf]; rfl⟩
      constructor <;> simp_all [occurrence]
    | false =>
      refine ⟨occurrence r (.failed f), ?_, rfl, by simp only [conclude, hf]; rfl⟩
      constructor <;> simp_all [occurrence]

/-! ### A cycle -/

variable {visits : List Rat} {stop : Option Waking} {s : Schedule} {p : Periodic}

/-- The run has slept for an interval and calls its next job. -/
structure Calls (s : Schedule) (visits : List Rat) (stop : Option Waking) (p : Periodic) (r : Run) :
    Prop where
  ready : r.Ready visits stop
  onward : Onward p.run r
  interrupt : r.interrupt = p.run.interrupt
  waking : ∀ w, r.interrupt = some (.stop w) → r.waking.precedes w = true
  now : r.now = Waking.carried (after p.run.now s.interval) p.run.now visits

/-- A cycle is cut off by the cancellation before it calls its job, or it calls the job and
concludes it. -/
theorem cycle_cases (hs : 0 < s.interval) (h : p.run.Ready visits stop) :
    (∃ w, p.run.interrupt = some (.stop w) ∧ stop = some w ∧
      cycle s p = ([⟨w.next, false, .ended (.cancelled "")⟩], none)) ∨
    ∃ r c, Calls s visits stop p r ∧
      Concludes s p.readings (exec .prompt (s.job p.calls) r) c ∧ c.isCall = false ∧
      cycle s p = ([occurrence r .called, c], if c.isEnd then none else
        some ⟨(exec .prompt (s.job p.calls) r).1, p.calls + 1,
          p.readings + c.reading?.toList.length⟩) := by
  have ho := onward_suspend s.interval h.orderly
  have hr := h.onward ho (settles_suspend s.interval p.run)
  rcases h.suspend hs with ⟨w, hi, e⟩ | ⟨hok, hnow, hi, hprec⟩
  · left
    have hstopped : Run.suspend s.interval p.run =
        ((stopped w p.run).1, .error (.cancelled "")) := by
      rw [e]
      rfl
    refine ⟨w, hi, h.stop_of_interrupt hi, ?_⟩
    simp only [cycle, hstopped]
    rfl
  · right
    obtain ⟨c, hc, hcall, e⟩ :=
      conclude_spec s p (exec .prompt (s.job p.calls) (Run.suspend s.interval p.run).1)
    refine ⟨(Run.suspend s.interval p.run).1, c, ⟨hr, ho, hi, hi ▸ hprec, hnow⟩, hc, hcall, ?_⟩
    have : Run.suspend s.interval p.run =
        ((Run.suspend s.interval p.run).1, .ok ()) := by rw [← hok]
    unfold cycle
    rw [this]
    simp only [e]

/-- The run after a cycle that is not the last. -/
def nextRun (s : Schedule) (p : Periodic) (r : Run) (c : Occurrence) : Periodic :=
  ⟨(exec .prompt (s.job p.calls) r).1, p.calls + 1, p.readings + c.reading?.toList.length⟩

theorem history_cases (hs : 0 < s.interval) (h : p.run.Ready visits stop) (n : Nat) :
    (∃ w, p.run.interrupt = some (.stop w) ∧ stop = some w ∧
      history s (n + 1) p = [⟨w.next, false, .ended (.cancelled "")⟩]) ∨
    ∃ r c, Calls s visits stop p r ∧
      Concludes s p.readings (exec .prompt (s.job p.calls) r) c ∧ c.isCall = false ∧
      history s (n + 1) p = occurrence r .called :: c ::
        if c.isEnd then [] else history s n (nextRun s p r c) := by
  rcases cycle_cases (s := s) hs h with ⟨w, hi, hw, e⟩ | ⟨r, c, hr, hc, hcall, e⟩
  · exact .inl ⟨w, hi, hw, by simp [history, e]⟩
  · refine .inr ⟨r, c, hr, hc, hcall, ?_⟩
    simp only [history, e]
    cases c.isEnd <;> rfl

/-! ### Cycle after cycle -/

/-- The moment at which the last of these occurrences was, or else `start`. -/
def since (start : Rat) (pre : List Occurrence) : Rat :=
  (pre.getLast?.map fun o => o.waking.time).getD start

theorem since_cons (start : Rat) (o : Occurrence) (l : List Occurrence) :
    since start (o :: l) = since o.waking.time l := by
  cases l with
  | nil => rfl
  | cons o' l => simp [since, List.getLast?_eq_some_getLast]

/-- The first run gets to the second by complete cycles with these occurrences. -/
inductive Leads (s : Schedule) (visits : List Rat) (stop : Option Waking) :
    Periodic → List Occurrence → Periodic → Prop
  | refl (p : Periodic) : Leads s visits stop p [] p
  | cycle {p q : Periodic} {r : Run} {c : Occurrence} {l : List Occurrence}
      (calls : Calls s visits stop p r)
      (concludes : Concludes s p.readings (exec .prompt (s.job p.calls) r) c)
      (quiet : c.isCall = false) (goes : c.isEnd = false)
      (rest : Leads s visits stop (nextRun s p r c) l q) :
      Leads s visits stop p (occurrence r .called :: c :: l) q

theorem Leads.ready {q : Periodic} {l : List Occurrence} (h : p.run.Ready visits stop)
    (hl : Leads s visits stop p l q) : q.run.Ready visits stop := by
  induction hl with
  | refl => exact h
  | cycle calls _ _ _ _ ih => exact ih (calls.ready.exec _).2

theorem Leads.calls {q : Periodic} {l : List Occurrence} (hl : Leads s visits stop p l q) :
    q.calls = p.calls + l.countP Occurrence.isCall := by
  induction hl with
  | refl => rfl
  | cycle _ _ quiet _ _ ih =>
    rw [ih, List.countP_cons_of_pos (by rfl), List.countP_cons_of_neg (by simp [quiet])]
    simp only [nextRun]
    omega

theorem Leads.readings {q : Periodic} {l : List Occurrence} (hl : Leads s visits stop p l q) :
    q.readings = p.readings + (l.filterMap Occurrence.reading?).length := by
  induction hl with
  | refl => rfl
  | @cycle p q r c l _ _ _ _ _ ih =>
    rw [ih, List.filterMap_cons_none rfl, List.filterMap_cons]
    simp only [nextRun]
    cases c.reading? <;> simp
    omega

theorem Leads.now {q : Periodic} {l : List Occurrence} (hl : Leads s visits stop p l q) :
    q.run.now = since p.run.now l := by
  induction hl with
  | refl => rfl
  | @cycle p q r c l _ concludes _ _ _ ih =>
    rw [ih, since_cons, since_cons, concludes.waking]
    rfl

/-- In `n` cycles from a run, complete ones with the occurrences `pre` lead to one that calls its
job in the run `r` and concludes it with `c`; `rest` is what happens then. -/
structure InHistory (s : Schedule) (visits : List Rat) (stop : Option Waking) (p : Periodic)
    (n : Nat) (pre : List Occurrence) (r : Run) (c : Occurrence) (rest : List Occurrence) :
    Prop where
  cycle : ∃ q m, Leads s visits stop p pre q ∧ Calls s visits stop q r ∧
    Concludes s q.readings (exec .prompt (s.job q.calls) r) c ∧
    m + 1 + pre.countP Occurrence.isCall = n ∧
    rest = if c.isEnd then [] else history s m (nextRun s q r c)
  quiet : c.isCall = false

theorem InHistory.cons {r r' : Run} {c c' : Occurrence} {pre rest : List Occurrence} {n : Nat}
    (hr : Calls s visits stop p r)
    (hc : Concludes s p.readings (exec .prompt (s.job p.calls) r) c) (hcall : c.isCall = false)
    (hend : c.isEnd = false)
    (h : InHistory s visits stop (nextRun s p r c) n pre r' c' rest) :
    InHistory s visits stop p (n + 1) (occurrence r .called :: c :: pre) r' c' rest := by
  obtain ⟨⟨q, m, hl, hr', hc', rfl, hrest⟩, hquiet⟩ := h
  refine ⟨⟨q, m, .cycle hr hc hcall hend hl, hr', hc', ?_, hrest⟩, hquiet⟩
  rw [List.countP_cons_of_pos (by rfl), List.countP_cons_of_neg (by simp [hcall])]
  omega

/-- Whatever happens is a call, the conclusion of one, or the cancellation between two. -/
theorem happening_cases (hs : 0 < s.interval) {n : Nat} {pre post : List Occurrence}
    {o : Occurrence} (h : p.run.Ready visits stop) (e : history s n p = pre ++ o :: post) :
    (∃ r c rest, o = occurrence r .called ∧ post = c :: rest ∧
      InHistory s visits stop p n pre r c rest) ∨
    (∃ before r, pre = before ++ [occurrence r .called] ∧
      InHistory s visits stop p n before r o post) ∨
    ∃ q w, Leads s visits stop p pre q ∧ q.run.interrupt = some (.stop w) ∧ stop = some w ∧
      o = ⟨w.next, false, .ended (.cancelled "")⟩ ∧ post = [] := by
  induction n generalizing p pre with
  | zero => simp [history] at e
  | succ n ih =>
    rcases history_cases hs h n with ⟨w, hi, hw, e'⟩ | ⟨r, c, hr, hc, hcall, e'⟩ <;> rw [e'] at e
    · rw [List.singleton_eq_append_iff] at e
      rcases e with ⟨rfl, e⟩ | ⟨-, e⟩
      · rw [List.cons.injEq] at e
        exact .inr (.inr ⟨p, w, .refl p, hi, hw, e.1, e.2⟩)
      · cases e
    · match pre with
      | [] =>
        rw [List.nil_append, List.cons.injEq] at e
        obtain ⟨rfl, rfl⟩ := e
        exact .inl ⟨r, c, _, rfl, rfl, ⟨p, n, .refl p, hr, hc, rfl, rfl⟩, hcall⟩
      | [call] =>
        rw [List.singleton_append, List.cons.injEq, List.cons.injEq] at e
        obtain ⟨rfl, rfl, rfl⟩ := e
        exact .inr (.inl ⟨[], r, rfl, ⟨p, n, .refl p, hr, hc, rfl, rfl⟩, hcall⟩)
      | _ :: _ :: pre =>
        simp only [List.cons_append, List.cons.injEq] at e
        obtain ⟨rfl, rfl, e⟩ := e
        cases hend : c.isEnd with
        | true => simp [hend] at e
        | false =>
          rw [hend] at e
          rcases ih (hr.ready.exec _).2 e with ⟨r', c', rest, ho, hpost, hin⟩ |
            ⟨before, r', rfl, hin⟩ | ⟨q, w, hl, hi, hw, ho, hpost⟩
          · exact .inl ⟨r', c', rest, ho, hpost, hin.cons hr hc hcall hend⟩
          · exact .inr (.inl ⟨_, r', rfl, hin.cons hr hc hcall hend⟩)
          · exact .inr (.inr ⟨q, w, .cycle hr hc hcall hend hl, hi, hw, ho, hpost⟩)

end Periodic

end Gatehouse
