import Gatehouse.Persistence.Watch
import Gatehouse.Proofs.Persistence.Cycle

/-! # What a periodic run does over time

A periodic run calls one job after the other, each an interval after the last one ended, and sets
its marker when a job has persisted. `Truthful` says what that means for all that happens in a
run, and `periodic_run_truthful` that it holds of every run, whatever its jobs and its clock do,
whoever else wakes up beside it, and whether or not it is cancelled from outside.

An interval is one of the event loop: it is added as doubles are, and if other work wakes up less
than the clock's resolution before the sleep is over, the job starts together with that
(`carried_along`). -/

namespace Gatehouse

open Moment

namespace Occurrence

/-- The failure of a job that did not persist. -/
def failed? (o : Occurrence) : Option Failure :=
  match o.what with
  | .failed f => some f
  | _ => none

end Occurrence

/-- The last reading that the marker was set to. -/
def lastReading? (pre : List Occurrence) : Option Timestamp :=
  (pre.filterMap Occurrence.reading?).getLast?

theorem Marker.after_concat (m : Marker) (pre : List Occurrence) (o : Occurrence) :
    m.after (pre ++ [o]) = match o.reading? with
      | some t => ⟨t⟩
      | none => m.after pre := by
  unfold Marker.after
  rw [List.foldl_append]
  obtain ⟨waking, early, what⟩ := o
  cases what <;> rfl

theorem Marker.after_eq (m : Marker) (pre : List Occurrence) :
    (m.after pre).value = (lastReading? pre).getD m.value := by
  induction pre using List.reverseRecOn with
  | nil => rfl
  | append_singleton pre o ih =>
    rw [Marker.after_concat, lastReading?, List.filterMap_append]
    cases h : o.reading? with
    | some t => simp [h]
    | none => rw [List.filterMap_cons_none h, List.filterMap_nil, List.append_nil]; exact ih

namespace Periodic

open Run

/-- A run that has done nothing yet. -/
def fresh (s : Schedule) (start : Waking) (visits : List Rat) (stop : Option Waking) : Periodic :=
  ⟨Run.begin s.reckoning start visits (stop.map .stop), 0, 0⟩

/-- After the occurrences `pre`, the next job is called in the run `r`, and `c` is its
conclusion. -/
structure Cycle (s : Schedule) (start : Rat) (visits : List Rat) (stop : Option Waking)
    (pre : List Occurrence) (r : Run) (c : Occurrence) : Prop where
  ready : r.Ready visits stop
  due : r.now = Waking.carried (after (since start pre) s.interval) (since start pre) visits
  onward : since start pre ≤ r.now ∧ r.now ≤ c.waking.time
  concludes : Concludes s (pre.filterMap Occurrence.reading?).length
    (exec .prompt (s.job (pre.countP Occurrence.isCall)) r) c

/-- The report of a failed job. -/
def report (f : Failure) : Event :=
  ⟨.error, .scheduler, "persist_cycle_failed", [Event.failureField f]⟩

/-- What is true of `n` cycles of a run that begins at `start`. -/
structure Truthful (s : Schedule) (start : Rat) (visits : List Rat) (stop : Option Waking)
    (n : Nat) (h : List Occurrence) : Prop where
  /-- A call is made on time, and nothing happens before it is concluded. -/
  calls : ∀ pre o post, h = pre ++ o :: post → o.isCall = true →
    ∃ r c rest, o = occurrence r .called ∧ post = c :: rest ∧ Cycle s start visits stop pre r c
  /-- Anything else concludes a call, or is the cancellation between two calls. -/
  others : ∀ pre o post, h = pre ++ o :: post → o.isCall = false →
    (∃ before r, pre = before ++ [occurrence r .called] ∧ Cycle s start visits stop before r o) ∨
      ∃ w, stop = some w ∧ o = ⟨w.next, false, .ended (.cancelled "")⟩
  times : ∀ pre a b post, h = pre ++ a :: b :: post → a.waking.time ≤ b.waking.time
  /-- A run that nobody cancels ends only if a job ends in `CancelledError` or the clock cannot be
  read, and this does not move the marker. -/
  ends : ∀ pre o post f, h = pre ++ o :: post → o.what = .ended f →
    post = [] ∧ (∀ m : Marker, m.after (pre ++ [o]) = m.after pre) ∧
      (stop = none →
        (∃ before r, pre = before ++ [occurrence r .called] ∧ f.isCancelled = true ∧
          (exec .prompt (s.job (before.countP Occurrence.isCall)) r).2 = .error f) ∨
        ∃ readings now, s.clock readings now = .error f)
  goesOn : h.countP Occurrence.isCall = n ∨ ∃ o ∈ h, o.isEnd = true
  /-- Jobs that do not raise `CancelledError` themselves do not end such a run. -/
  lasts : stop = none → (∀ k, (s.job k).NeverCancels) → ∀ o ∈ h, ∀ f, o.what = .ended f →
    ∃ readings now, s.clock readings now = .error f
  marker : ∀ (m : Marker) pre, pre <+: h → (m.after pre).value = (lastReading? pre).getD m.value
  events : h.filterMap Occurrence.event? = (h.filterMap Occurrence.failed?).map report
  /-- What happens before the cancellation happens first. -/
  past : h.filter Occurrence.early <+: h

variable {s : Schedule} {start : Waking} {visits : List Rat} {stop : Option Waking}
  {p : Periodic} {pre post : List Occurrence} {o : Occurrence} {n : Nat}

theorem InHistory.cycle_of {r : Run} {c : Occurrence} {rest : List Occurrence}
    (h : InHistory s visits stop (fresh s start visits stop) n pre r c rest) :
    Cycle s start.time visits stop pre r c := by
  obtain ⟨⟨q, m, hl, hr, hc, -, -⟩, -⟩ := h
  have hcalls : q.calls = pre.countP Occurrence.isCall := by simpa [fresh] using hl.calls
  have hreadings : q.readings = (pre.filterMap Occurrence.reading?).length := by
    simpa [fresh] using hl.readings
  have hnow : q.run.now = since start.time pre := hl.now
  rw [hcalls, hreadings] at hc
  refine ⟨hr.ready, hnow ▸ hr.now, ⟨hnow ▸ hr.onward.now, ?_⟩, hc⟩
  rw [hc.waking]
  exact (hr.ready.exec _).1.now

theorem InHistory.rest_of_isEnd {r : Run} {c : Occurrence} {rest : List Occurrence}
    (h : InHistory s visits stop p n pre r c rest) (hend : c.isEnd = true) : rest = [] := by
  obtain ⟨⟨q, m, -, -, -, -, rfl⟩, -⟩ := h
  rw [if_pos hend]

/-- The run goes on until it ends. -/
theorem goes_on (hs : 0 < s.interval) (h : p.run.Ready visits stop) (n : Nat) :
    (history s n p).countP Occurrence.isCall = n ∨ ∃ o ∈ history s n p, o.isEnd = true := by
  induction n generalizing p with
  | zero => exact .inl rfl
  | succ n ih =>
    rcases history_cases (s := s) hs h n with ⟨w, _, _, e⟩ | ⟨r, c, hr, _, hcall, e⟩ <;> rw [e]
    · exact .inr ⟨_, List.mem_cons_self, rfl⟩
    · cases hend : c.isEnd with
      | true => exact .inr ⟨c, by simp, hend⟩
      | false =>
        rw [if_neg (by simp), List.countP_cons_of_pos (by rfl),
          List.countP_cons_of_neg (by simp [hcall])]
        have hnext : (nextRun s p r c).run.Ready visits stop := (hr.ready.exec _).2
        rcases ih hnext with hn | ⟨o, ho, hend⟩
        · exact .inl (congrArg (· + 1) hn)
        · exact .inr ⟨o, by simp [ho], hend⟩

theorem early_back {a b : Run} (h : Onward a b) (hb : b.interrupt.isSome = true) :
    a.interrupt.isSome = true := by
  rcases h.interrupt with e | ⟨_, _, e, _⟩
  · rwa [← e]
  · rw [e] at hb
    cases hb

/-- A cancellation is to come until it has. -/
theorem early_first (hs : 0 < s.interval) (h : p.run.Ready visits stop) (n : Nat) :
    (∀ o ∈ history s n p, o.early = true → p.run.interrupt.isSome = true) ∧
      (history s n p).Pairwise fun a b => b.early = true → a.early = true := by
  induction n generalizing p with
  | zero => exact ⟨by simp [history], .nil⟩
  | succ n ih =>
    rcases history_cases (s := s) hs h n with ⟨w, _, _, e⟩ | ⟨r, c, hr, hc, _, e⟩ <;> rw [e]
    · exact ⟨by simp, List.pairwise_singleton _ _⟩
    · let q := nextRun s p r c
      have hjob : Onward r q.run := (hr.ready.exec _).1
      have hlast : c.early = true → r.interrupt.isSome = true := by
        rw [hc.early]
        exact early_back hjob
      obtain ⟨hfirst, hpair⟩ := ih (p := q) (hr.ready.exec _).2
      have hrest : ∀ o ∈ if c.isEnd then [] else history s n q,
          o.early = true → q.run.interrupt.isSome = true := by
        intro o ho
        split at ho
        · cases ho
        · exact hfirst o ho
      refine ⟨?_, .cons ?_ (.cons ?_ ?_)⟩
      · intro o ho hearly
        apply early_back hr.onward
        rcases List.mem_cons.1 ho with rfl | ho
        · exact hearly
        rcases List.mem_cons.1 ho with rfl | ho
        · exact hlast hearly
        · exact early_back hjob (hrest o ho hearly)
      · intro o ho hearly
        show r.interrupt.isSome = true
        rcases List.mem_cons.1 ho with rfl | ho
        · exact hlast hearly
        · exact early_back hjob (hrest o ho hearly)
      · intro o ho hearly
        rw [hc.early]
        exact hrest o ho hearly
      · split
        · exact .nil
        · exact hpair

/-- What holds of all elements of a list up to some place holds of its first elements. -/
theorem filter_prefix {α : Type} {keep : α → Bool} {l : List α}
    (h : l.Pairwise fun a b => keep b = true → keep a = true) : l.filter keep <+: l := by
  induction h with
  | nil => exact List.prefix_rfl
  | @cons a l ha _ ih =>
    rw [List.filter_cons]
    split
    · exact List.cons_prefix_cons.2 ⟨rfl, ih⟩
    · have : l.filter keep = [] := by
        rw [List.filter_eq_nil_iff]
        intro b hb hk
        exact absurd (ha b hb hk) ‹_›
      rw [this]
      exact List.nil_prefix

/-- A run ends with a job only if that ends in `CancelledError` or the clock cannot be read. -/
theorem Cycle.ended {r : Run} {c : Occurrence} {f : Failure}
    (h : Cycle s start.time visits stop pre r c) (hc : c.what = .ended f) :
    (exec .prompt (s.job (pre.countP Occurrence.isCall)) r).2 = .error f ∧ f.isCancelled = true ∨
      ∃ readings now, s.clock readings now = .error f := by
  obtain ⟨-, -, -, hconcludes⟩ := h
  generalize exec .prompt (s.job (pre.countP Occurrence.isCall)) r = result at hconcludes
  obtain ⟨_, _, returned, unread, failed, cancelled⟩ := hconcludes
  cases hout : result.2 with
  | ok =>
    right
    cases hread : s.clock (pre.filterMap Occurrence.reading?).length result.1.now with
    | ok t => simp [returned t hout hread] at hc
    | error g =>
      obtain rfl : g = f := by simpa [unread g hout hread] using hc
      exact ⟨_, _, hread⟩
  | error g =>
    left
    cases hcan : g.isCancelled with
    | true =>
      obtain rfl : g = f := by simpa [cancelled g hout hcan] using hc
      exact ⟨rfl, hcan⟩
    | false => simp [failed g hout hcan] at hc

theorem events_eq (h : List Occurrence) :
    h.filterMap Occurrence.event? = (h.filterMap Occurrence.failed?).map report := by
  rw [List.map_filterMap]
  congr 1
  funext o
  obtain ⟨waking, early, what⟩ := o
  cases what <;> rfl

/-- What happens next does not happen earlier. -/
theorem time_le_next (hs : 0 < s.interval) (hsound : Sound start visits stop)
    {a b : Occurrence} (e : history s n (fresh s start visits stop) = pre ++ a :: b :: post) :
    a.waking.time ≤ b.waking.time := by
  have hready : (fresh s start visits stop).run.Ready visits stop := ready_begin hsound
  have e' : history s n (fresh s start visits stop) = (pre ++ [a]) ++ b :: post := by simpa using e
  have hsince : since start.time (pre ++ [a]) = a.waking.time := by simp [since]
  rcases happening_cases hs hready e' with ⟨r, c, _, rfl, _, h⟩ | ⟨before, r, hpre, h⟩ |
    ⟨q, w, hl, hi, _, rfl, _⟩
  · exact hsince ▸ h.cycle_of.onward.1
  · obtain ⟨rfl, ha⟩ := List.append_inj' hpre rfl
    obtain rfl : a = occurrence r .called := by simpa using ha
    exact h.cycle_of.onward.2
  · obtain ⟨_, ⟨rfl⟩, _, hle⟩ := (hl.ready hready).orderly.interrupt _ hi
    have hnow : q.run.now = a.waking.time := hsince ▸ hl.now
    show a.waking.time ≤ w.next.time
    rw [Waking.time_next, ← hnow]
    exact hle

theorem end_cases (hs : 0 < s.interval) (hsound : Sound start visits stop) {f : Failure}
    (e : history s n (fresh s start visits stop) = pre ++ o :: post) (hf : o.what = .ended f) :
    post = [] ∧ (stop = none → ∃ before r, pre = before ++ [occurrence r .called] ∧
      Cycle s start.time visits stop before r o) := by
  have hend : o.isEnd = true := by simp [Occurrence.isEnd, Occurrence.failure?, hf]
  rcases happening_cases hs (ready_begin hsound) e with ⟨_, _, _, rfl, _⟩ | ⟨before, r, hpre, h⟩ |
    ⟨_, w, _, _, hw, _, hpost⟩
  · cases hf
  · exact ⟨h.rest_of_isEnd hend, fun _ => ⟨before, r, hpre, h.cycle_of⟩⟩
  · refine ⟨hpost, fun hnone => ?_⟩
    rw [hnone] at hw
    cases hw

/-- **A periodic run is sequential and its marker is truthful.** For every interval, start, jobs and
clock, every company on the event loop and every number of cycles. -/
theorem periodic_run_truthful (hs : 0 < s.interval) (hsound : Sound start visits stop) (n : Nat) :
    Truthful s start.time visits stop n (history s n (fresh s start visits stop)) := by
  have hready : (fresh s start visits stop).run.Ready visits stop := ready_begin hsound
  refine ⟨?calls, ?others, fun pre a b post e => time_le_next hs hsound e, ?ends,
    goes_on hs hready n, ?lasts, fun m pre _ => m.after_eq pre, events_eq _,
    filter_prefix (early_first hs hready n).2⟩
  case calls =>
    intro pre o post e hcall
    rcases happening_cases hs hready e with ⟨r, c, rest, ho, hpost, h⟩ | ⟨_, _, _, h⟩ |
      ⟨_, _, _, _, _, rfl, _⟩
    · exact ⟨r, c, rest, ho, hpost, h.cycle_of⟩
    · rw [h.quiet] at hcall
      cases hcall
    · cases hcall
  case others =>
    intro pre o post e hcall
    rcases happening_cases hs hready e with ⟨_, _, _, rfl, _⟩ | ⟨before, r, hpre, h⟩ |
      ⟨_, w, _, _, hw, ho, _⟩
    · cases hcall
    · exact .inl ⟨before, r, hpre, h.cycle_of⟩
    · exact .inr ⟨w, hw, ho⟩
  case ends =>
    intro pre o post f e hf
    have hread : o.reading? = none := by simp [Occurrence.reading?, hf]
    obtain ⟨hpost, hjob⟩ := end_cases hs hsound e hf
    refine ⟨hpost, fun m => by rw [Marker.after_concat, hread], fun hnone => ?_⟩
    obtain ⟨before, r, hpre, hcycle⟩ := hjob hnone
    rcases hcycle.ended hf with ⟨hout, hcan⟩ | hclock
    · exact .inl ⟨before, r, hpre, hcan, hout⟩
    · exact .inr hclock
  case lasts =>
    intro hnone hjobs o ho f hf
    obtain ⟨pre, post, e⟩ := List.append_of_mem ho
    obtain ⟨before, r, -, hcycle⟩ := (end_cases hs hsound e hf).2 hnone
    rcases hcycle.ended hf with ⟨hout, hcan⟩ | hclock
    · cases f <;> cases hcan
      exact absurd hout ((hnone ▸ hcycle.ready).not_cancelled (hjobs _) _)
    · exact hclock

/-- A schedule of one second, whose clock always shows the same. -/
def everySecond (job : Nat → Script) : Schedule := ⟨.sinceEntry, 1, job, fun _ _ => .ok .earliest⟩

/-- Jobs that take half a second, the second of which fails. -/
def halfSecondJobs (k : Nat) : Script :=
  .sleep (mkRat 1 2) (if k = 1 then .fail (.value "") else .done)

/-- Three cycles, the second of which fails. -/
theorem three_cycles :
    let s := everySecond halfSecondJobs
    let h := history s 3 (fresh s (.first 1000) [] none)
    0 < s.interval ∧ Sound (.first 1000) [] none ∧ Truthful s 1000 [] none 3 h ∧
      h.map (fun o => o.waking.time) =
        [1001, mkRat 2003 2, mkRat 2005 2, 1003, 1004, mkRat 2009 2] := by
  intro s h
  have hsound : Sound (.first 1000) [] none := ⟨by decide +kernel, by simp, by simp⟩
  have hs : 0 < s.interval := by decide +kernel
  exact ⟨hs, hsound, periodic_run_truthful hs hsound 3, by decide +kernel⟩

/-- Half a nanosecond less than a second. -/
def nearlySecond : Rat := mkRat 1999999999 2000000000

/-- A job is called before its interval is over if other work wakes up just before. -/
theorem carried_along :
    let s := everySecond fun _ => .done
    ∃ o ∈ history s 1 (fresh s (.first 1000) [after 1000 nearlySecond] none),
      o.isCall = true ∧ o.waking.time = after 1000 nearlySecond ∧
        o.waking.time < after 1000 1 := by
  decide +kernel

end Periodic

end Gatehouse
