import Gatehouse.Proofs.Persistence.Timeline

/-! # A periodic run that is cancelled

A cancellation that lands in the sleep between two jobs ends the run. One that lands in a job is
the job's: if this lets it through, the run ends in it, too, and nothing is called or persisted
any more. But a job may intercept it (`Intercepts`), by catching it, by a clean-up that fails, or
by a failure of its handler, and the run takes the end of such a job for any other and goes on, as
if nobody had cancelled it. `stops_unless_intercepted` proves that this is the only way for
anything to happen later, and that it always leads there; `intercepted_run_goes_on` is an
instance. -/

namespace Gatehouse

namespace Periodic

open Run

/-- The cancellation from outside comes while the job is run, and the job ends in something
else. -/
def Intercepts (job : Script) (r : Run) : Prop :=
  r.interrupt.isSome = true ∧ (exec .prompt job r).1.interrupt = none ∧
    ∀ m, (exec .prompt job r).2 ≠ .error (.cancelled m)

/-- What is true of `n` cycles of a run that begins at `start` and is cancelled in the turn
`stop`. -/
structure Stops (s : Schedule) (start : Rat) (visits : List Rat) (stop : Waking) (n : Nat)
    (h : List Occurrence) : Prop where
  before : ∀ o ∈ h, o.early = true → o.waking.precedes stop = true
  later : ∀ o ∈ h, o.early = false → stop.time ≤ o.waking.time
  past : h.filter Occurrence.early <+: h
  /-- Nothing but the end comes after the cancellation, or a job has intercepted it. -/
  stops : ∀ pre o post, h = pre ++ o :: post → o.early = false →
    (post = [] ∧ ∃ m, o.what = .ended (.cancelled m)) ∨
      ∃ before r c after, pre ++ [o] = before ++ occurrence r .called :: c :: after ∧
        Cycle s start visits (some stop) before r c ∧
        Intercepts (s.job (before.countP Occurrence.isCall)) r
  /-- If a job does, it has a conclusion as any other, and unless that is the end of the run, the
  next job is called. -/
  goesOn : ∀ pre o c post, h = pre ++ o :: c :: post → o.isCall = true →
    ∃ r, o = occurrence r .called ∧ Cycle s start visits (some stop) pre r c ∧
      (Intercepts (s.job (pre.countP Occurrence.isCall)) r →
        c.early = false ∧ (c.isEnd = true ∨ pre.countP Occurrence.isCall + 1 = n ∨
          ∃ o' c' rest, post = o' :: c' :: rest ∧ o'.isCall = true))
  /-- A job that lets cancellations through intercepts none. -/
  lets : ∀ k r, (s.job k).LetsThrough → r.Ready visits (some stop) → ¬Intercepts (s.job k) r

variable {s : Schedule} {start : Waking} {visits : List Rat} {w : Waking} {stop : Option Waking}
  {p : Periodic} {pre post : List Occurrence} {o : Occurrence} {n : Nat}

theorem not_intercepts {r : Run} {job : Script} (hjob : job.LetsThrough)
    (hr : r.Ready visits stop) : ¬Intercepts job r := by
  rintro ⟨hsome, hnone, hout⟩
  obtain ⟨i, hi⟩ := Option.isSome_iff_exists.1 hsome
  have hlt : (exec .prompt job r).1.coming < r.coming := by simp [Run.coming, hi, hnone]
  obtain ⟨m, hm⟩ := cancelled_of_interrupted hjob hr.covered hlt
  exact hout m hm

theorem Concludes.ended_of_cancelled {readings : Nat} {r : Run} {job : Script} {c : Occurrence}
    (h : Concludes s readings (exec .prompt job r) c) (hr : r.interrupt.isSome = true)
    (hc : (exec .prompt job r).1.interrupt = none) (hjob : ¬Intercepts job r) :
    ∃ m, c.what = .ended (.cancelled m) := by
  by_contra hno
  refine hjob ⟨hr, hc, ?_⟩
  intro m hm
  exact hno ⟨m, h.cancelled _ hm rfl⟩

/-- Complete cycles lead past the cancellation only if one of their jobs intercepts it. -/
theorem Leads.intercepted {q : Periodic} (hl : Leads s visits stop p pre q)
    (hp : p.run.interrupt.isSome = true) (hq : q.run.interrupt = none) (m : Nat) :
    ∃ before r c after rest, pre = before ++ occurrence r .called :: c :: after ∧
      InHistory s visits stop p (pre.countP Occurrence.isCall + m) before r c rest ∧
      Intercepts (s.job (p.calls + before.countP Occurrence.isCall)) r := by
  induction hl with
  | refl p =>
    rw [hq] at hp
    cases hp
  | @cycle p q r c l calls concludes quiet goes _ ih =>
    have hr : r.interrupt.isSome = true := calls.interrupt ▸ hp
    have hcount : (occurrence r .called :: c :: l).countP Occurrence.isCall =
        l.countP Occurrence.isCall + 1 := by
      rw [List.countP_cons_of_pos (by rfl), List.countP_cons_of_neg (by simp [quiet])]
    cases hn : (nextRun s p r c).run.interrupt with
    | none =>
      refine ⟨[], r, c, l, _, rfl, ⟨⟨p, l.countP Occurrence.isCall + m, .refl p, calls, concludes,
        ?_, rfl⟩, quiet⟩, ?_⟩
      · rw [hcount, List.countP_nil]
        omega
      · by_contra hno
        obtain ⟨m, hm⟩ := concludes.ended_of_cancelled hr hn hno
        simp [Occurrence.isEnd, Occurrence.failure?, hm] at goes
    | some i =>
      obtain ⟨before, r', c', after, rest, rfl, hin, hjob⟩ := ih (by simp [hn]) hq
      refine ⟨_ :: _ :: before, r', c', after, rest, rfl, ?_, ?_⟩
      · have := hin.cons calls concludes quiet goes
        rwa [hcount, show ∀ a, a + 1 + m = a + m + 1 by omega]
      · rw [List.countP_cons_of_pos (by rfl), List.countP_cons_of_neg (by simp [quiet])]
        rwa [show p.calls + (before.countP Occurrence.isCall + 1) =
          p.calls + 1 + before.countP Occurrence.isCall by omega]

theorem Calls.precedes {r : Run} (h : Calls s visits (some w) p r)
    (hr : r.interrupt.isSome = true) : r.waking.precedes w = true := by
  obtain ⟨i, hi⟩ := Option.isSome_iff_exists.1 hr
  obtain ⟨w', rfl, -⟩ := h.ready.orderly.interrupt i hi
  cases h.ready.stop_of_interrupt hi
  exact h.waking w hi

/-- What is early comes before the turn of the cancellation, and what is not comes after. -/
theorem Concludes.timed {readings : Nat} {r : Run} {job : Script} {c : Occurrence}
    (h : Concludes s readings (exec .prompt job r) c) (hr : Calls s visits (some w) p r) :
    (c.early = true → c.waking.precedes w = true) ∧ (c.early = false → w.time ≤ c.waking.time) := by
  obtain ⟨ho, hready⟩ := hr.ready.exec job
  rw [h.early, h.waking]
  constructor
  · intro hearly
    obtain ⟨i, hi⟩ := Option.isSome_iff_exists.1 hearly
    obtain ⟨w', rfl, -⟩ := hready.orderly.interrupt i hi
    cases hready.stop_of_interrupt hi
    rcases ho.early w hi with e | hp
    · rw [e]
      exact hr.precedes (early_back ho hearly)
    · exact hp
  · intro hlate
    exact hready.passed (by simpa using hlate) w rfl

/-! ### Runs that are cancelled -/

/-- What happens early comes before the turn of the cancellation, anything else after it. -/
theorem timed_of_mem (hs : 0 < s.interval) (hsound : Sound start visits (some w))
    (ho : o ∈ history s n (begin s start visits w)) :
    (o.early = true → o.waking.precedes w = true) ∧ (o.early = false → w.time ≤ o.waking.time) := by
  have hready : (begin s start visits w).run.Ready visits (some w) := ready_begin hsound
  obtain ⟨pre, post, e⟩ := List.append_of_mem ho
  rcases happening_cases hs hready e with ⟨r, c, rest, rfl, _, h⟩ | ⟨before, r, _, h⟩ |
    ⟨_, w', _, _, hw, rfl, _⟩
  · obtain ⟨q, m, -, hr, -⟩ := h.cycle
    refine ⟨hr.precedes, fun hlate => ?_⟩
    exact hr.ready.passed (by simpa [occurrence] using hlate) w rfl
  · obtain ⟨q, m, -, hr, hc, -⟩ := h.cycle
    exact hc.timed hr
  · cases hw
    exact ⟨fun hearly => absurd hearly Bool.false_ne_true, fun _ => (Waking.time_next w).ge⟩

/-- What comes after the cancellation is the end of the run, or a job has intercepted it. -/
theorem late_cases (hs : 0 < s.interval) (hsound : Sound start visits (some w))
    (e : history s n (begin s start visits w) = pre ++ o :: post) (hlate : o.early = false) :
    (post = [] ∧ ∃ m, o.what = .ended (.cancelled m)) ∨
      ∃ before r c after, pre ++ [o] = before ++ occurrence r .called :: c :: after ∧
        Cycle s start.time visits (some w) before r c ∧
        Intercepts (s.job (before.countP Occurrence.isCall)) r := by
  have hcoming : (begin s start visits w).run.interrupt.isSome = true := rfl
  -- if complete cycles lead past the cancellation, one of their jobs has intercepted it
  have hled : ∀ {l after : List Occurrence} {q : Periodic}, pre ++ [o] = l ++ after →
      Leads s visits (some w) (begin s start visits w) l q → q.run.interrupt = none →
      ∃ before r c after, pre ++ [o] = before ++ occurrence r .called :: c :: after ∧
        Cycle s start.time visits (some w) before r c ∧
        Intercepts (s.job (before.countP Occurrence.isCall)) r := by
    intro l after q e hl hq
    obtain ⟨a, r, c, b, rest, rfl, hin, hjob⟩ := hl.intercepted hcoming hq 0
    refine ⟨a, r, c, b ++ after, by simpa using e, hin.cycle_of, ?_⟩
    simpa [begin] using hjob
  rcases happening_cases hs (ready_begin hsound) e with ⟨r, c, rest, rfl, _, h⟩ |
    ⟨before, r, rfl, h⟩ | ⟨_, w', _, _, hw, rfl, hpost⟩
  · obtain ⟨q, m, hl, hr, -⟩ := h.cycle
    refine .inr (hled rfl hl ?_)
    rw [← hr.interrupt]
    simpa [occurrence] using hlate
  · obtain ⟨q, m, hl, hr, hc, -⟩ := h.cycle
    cases hq : q.run.interrupt with
    | none => exact .inr (hled (List.append_assoc ..) hl hq)
    | some i =>
      have hsome : r.interrupt.isSome = true := by simp [hr.interrupt, hq]
      have hcalls : q.calls = before.countP Occurrence.isCall := by simpa [begin] using hl.calls
      by_cases hjob : Intercepts (s.job (before.countP Occurrence.isCall)) r
      · exact .inr ⟨before, r, o, [], by simp, h.cycle_of, hjob⟩
      · have hnone : (exec .prompt (s.job q.calls) r).1.interrupt = none := by
          rw [hc.early] at hlate
          simpa using hlate
        obtain ⟨f, hf⟩ := hc.ended_of_cancelled hsome hnone (hcalls ▸ hjob)
        refine .inl ⟨h.rest_of_isEnd ?_, f, hf⟩
        simp [Occurrence.isEnd, Occurrence.failure?, hf]
  · exact .inl ⟨hpost, "", rfl⟩

/-- A job that intercepts the cancellation is followed by the next one, unless it is the end of the
run or the last of the cycles. -/
theorem InHistory.called_again (hs : 0 < s.interval) {r : Run} {c : Occurrence}
    {rest : List Occurrence}
    (h : InHistory s visits (some w) (begin s start visits w) n pre r c rest)
    (hjob : Intercepts (s.job (pre.countP Occurrence.isCall)) r) :
    c.early = false ∧ (c.isEnd = true ∨ pre.countP Occurrence.isCall + 1 = n ∨
      ∃ o' c' rest', rest = o' :: c' :: rest' ∧ o'.isCall = true) := by
  obtain ⟨-, hnone, -⟩ := hjob
  obtain ⟨q, m, hl, hr, hc, hm, hrest⟩ := h.cycle
  have hcalls : q.calls = pre.countP Occurrence.isCall := by simpa [begin] using hl.calls
  rw [← hcalls] at hnone
  have hpassed : (nextRun s q r c).run.interrupt = none := hnone
  refine ⟨by rw [hc.early, hnone]; rfl, ?_⟩
  cases hend : c.isEnd with
  | true => exact .inl rfl
  | false =>
    right
    rw [hend] at hrest
    cases m with
    | zero =>
      left
      omega
    | succ m =>
      right
      rcases history_cases (s := s) (p := nextRun s q r c) hs (hr.ready.exec _).2 m with
        ⟨_, hi, _⟩ | ⟨r', c', _, _, _, e'⟩
      · rw [hpassed] at hi
        cases hi
      · exact ⟨_, c', _, hrest.trans e', rfl⟩

/-- **A cancelled run stops unless a job intercepts the cancellation.** For every interval, start,
jobs and clock, every turn of the cancellation and every company on the event loop. -/
theorem stops_unless_intercepted (hs : 0 < s.interval) (hsound : Sound start visits (some w))
    (n : Nat) : Stops s start.time visits w n (history s n (begin s start visits w)) where
  before _ ho := (timed_of_mem hs hsound ho).1
  later _ ho := (timed_of_mem hs hsound ho).2
  past := filter_prefix (early_first hs (ready_begin hsound) n).2
  stops _ _ _ e hlate := late_cases hs hsound e hlate
  goesOn pre o c post e hcall := by
    rcases happening_cases hs (ready_begin hsound) e with ⟨r, c', rest, rfl, hpost, h⟩ |
      ⟨_, _, _, h⟩ | ⟨_, _, _, _, _, rfl, _⟩
    · obtain ⟨rfl, rfl⟩ := List.cons.inj hpost
      exact ⟨r, rfl, h.cycle_of, h.called_again hs⟩
    · rw [h.quiet] at hcall
      cases hcall
    · cases hcall
  lets _ _ hjob hr := not_intercepts hjob hr

/-- A second and a half after the start of the examples, when everything else has been done. -/
def halfPast : Waking := .last (mkRat 2003 2)

/-- A run whose job sleeps when it is cancelled. -/
theorem cancelled_in_job :
    let s := everySecond fun _ => .sleep 10 .done
    0 < s.interval ∧ Sound (.first 1000) [] (some halfPast) ∧
      Stops s 1000 [] halfPast 2 (history s 2 (begin s (.first 1000) [] halfPast)) := by
  intro s
  have hs : 0 < s.interval := by decide +kernel
  have hsound : Sound (.first 1000) [] (some halfPast) := by
    refine ⟨by decide +kernel, by simp, ?_⟩
    rintro _ ⟨rfl⟩
    exact ⟨by decide +kernel, by decide +kernel⟩
  exact ⟨hs, hsound, stops_unless_intercepted hs hsound 2⟩

/-- A job that sleeps and takes a cancellation for the end of its sleep. -/
def lightSleeper : Script :=
  .attempt (.sleep 10 .done) ["CancelledError"] (fun _ => .done) .done .done

/-- After the cancellation the marker is set and the next job is called. -/
theorem intercepted_run_goes_on :
    let s := everySecond fun _ => lightSleeper
    let h := history s 2 (begin s (.first 1000) [] halfPast)
    (∃ o ∈ h, o.early = false ∧ o.reading?.isSome = true) ∧
      ∃ o ∈ h, o.early = false ∧ o.isCall = true := by
  decide +kernel

end Periodic

end Gatehouse
