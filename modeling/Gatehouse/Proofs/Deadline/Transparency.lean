import Gatehouse.Proofs.Deadline.Answer
import Gatehouse.Proofs.Script.Progress

/-! # Requests that are done in time

A handler that is done early runs under the guard as it would run without one, `unguarded`. The two
runs are compared step by step: the guarded one has the guard's alarm `beneath` all others and
notes statuses, and is otherwise the same (`Follows`). The guard's alarm could make a difference
in a suspension only, and there it makes none as long as the run is `Harmless`: either it was
never suspended, or the deadline comes after everything that goes off now.

Being done before the deadline is not quite enough: timers that are less than the clock's
resolution apart go off together, and a message that cannot be noted is refused
(`early_is_not_enough`). `guard_transparent` has both conditions. -/

namespace Gatehouse

open Moment

/-- A message of which a status can be noted: a response start has one, and a message has a type. -/
def Message.isWellFormed : Message → Bool
  | .start none _ => false
  | .other none => false
  | _ => true

namespace Run

/-- The run with one more alarm, set before all others, and a status noted. -/
def beneath (a : Alarm) (status : Json) (r : Run) : Run :=
  { r with alarms := r.alarms ++ [a], status }

/-- The alarm has not rung by now and does not go off with what goes off now, and no message has
been refused. -/
structure Harmless (a : Alarm) (r : Run) : Prop where
  early : ∀ due ∈ a.due, (∃ t, r.waking = .first t) ∨ (r.now < due ∧ soon r.now ≤ due)
  formed : ∀ s ∈ r.handed, s.message.isWellFormed

theorem Harmless.back {a : Alarm} {r r' : Run} (h : Harmless a r') (hl : Later r r') :
    Harmless a r where
  early due hd := by
    rcases h.early due hd with ⟨t, hf⟩ | ⟨hlt, hs⟩
    · rcases hl.waking with e | hn
      · exact .inl ⟨t, e ▸ hf⟩
      · exact absurd hf (hn t)
    · exact .inr ⟨hl.now.trans_lt hlt, (soon_mono hl.now).trans hs⟩
  formed s hs := h.formed s (hl.handed.subset hs)

/-- With the alarm beneath, the second kind of work does what the first does without. -/
def Follows (a : Alarm) (v w : Work) : Prop :=
  ∀ r status, Timely r → Harmless a (v r).1 →
    ∃ status', w (r.beneath a status) = ((v r).1.beneath a status', (v r).2)

section

variable {a : Alarm}

/-! ### Suspension -/

theorem now_beneath (r : Run) (status : Json) : (r.beneath a status).now = r.now := rfl

theorem dues_beneath (ha : a.rung = false) (r : Run) (status : Json) :
    (r.beneath a status).dues = r.dues ++ a.due.toList := by
  unfold dues beneath
  rw [List.filterMap_append, ← List.append_assoc]
  cases hd : a.due <;> simp [Alarm.pending, ha, hd]

/-- An alarm that is due later than everything that goes off next does not change the next turn, and
is not due in it. -/
theorem turnAfter_beneath (ha : a.rung = false) (seconds : Rat) {r : Run} (status : Json)
    (h : Timely r)
    (hlate : ∀ due ∈ a.due, (turnAfter seconds r).1.time < due ∧
      soon (turnAfter seconds r).1.time ≤ due) :
    turnAfter seconds (r.beneath a status) = turnAfter seconds r ∧
      ∀ due ∈ a.due, (turnAfter seconds r).2 due = false := by
  obtain ⟨-, hnow, -⟩ := turnAfter_later seconds h
  have hdues := dues_beneath ha r status
  cases hd : a.due with
  | none =>
    rw [hd, Option.toList_none, List.append_nil] at hdues
    refine ⟨?_, by simp⟩
    unfold turnAfter
    rw [hdues]
    rfl
  | some due =>
    rw [hd, Option.toList_some] at hdues
    obtain ⟨hlt, hsoon⟩ := hlate due hd
    have hover : decide (due ≤ r.now) = false := decide_eq_false (not_le.2 (hnow.trans_lt hlt))
    have hany : ((r.beneath a status).dues.any fun t => t ≤ r.now) =
        r.dues.any fun t => t ≤ r.now := by
      rw [hdues, List.any_append, List.any_cons, hover]
      simp
    by_cases hs : seconds ≤ 0
    · rw [turnAfter_of_nonpos hs, turnAfter_of_nonpos hs]
      exact ⟨rfl, fun t ht => by obtain rfl := Option.mem_some.1 ht; exact hover⟩
    by_cases hp : (r.dues.any fun t => t ≤ r.now) = true
    · rw [turnAfter_of_due hs hp, Waking.time_next, Waking.time_next] at hsoon
      rw [turnAfter_of_due hs hp, turnAfter_of_due hs (hany.trans hp)]
      refine ⟨rfl, fun t ht => ?_⟩
      obtain rfl := Option.mem_some.1 ht
      exact decide_eq_false (not_lt.2 hsoon)
    · have hp' : ¬((r.beneath a status).dues.any fun t => t ≤ r.now) = true := by rwa [hany]
      rw [turnAfter_of_alone hs hp h.alone] at hlt hsoon
      have hlast : ¬due < earliest (after r.now seconds) r.dues := not_lt.2 (le_of_lt hlt)
      rw [turnAfter_of_alone hs hp h.alone, turnAfter_of_alone hs hp' h.alone, hdues,
        earliest_concat, now_beneath, if_neg hlast]
      refine ⟨rfl, fun t ht => ?_⟩
      obtain rfl := Option.mem_some.1 ht
      exact decide_eq_false (not_lt.2 hsoon)

theorem resume_beneath (ha : a.rung = false) (w : Waking) (isDue : Rat → Bool) (r : Run)
    (status : Json) (hnot : ∀ due ∈ a.due, isDue due = false)
    (hlate : ∀ due ∈ a.due, soon w.time ≤ due) :
    resume w isDue (r.beneath a status) =
      ((resume w isDue r).1.beneath a status, (resume w isDue r).2) := by
  have hrung : (r.beneath a status).dues.filter isDue = r.dues.filter isDue := by
    rw [dues_beneath ha, List.filter_append]
    cases hd : a.due with
    | none => simp
    | some due => simp [hnot due hd]
  have hring : a.ring isDue = a := by
    have hpending : a.pending.any isDue = false := by
      unfold Alarm.pending
      rw [ha]
      cases hd : a.due with
      | none => rfl
      | some due => exact hnot due hd
    rw [Alarm.ring, hpending]
    rfl
  have hhaste :
      a.due.map (fun t => if w.time < t && t < soon w.time then w.time else t) = a.due := by
    cases hd : a.due with
    | none => rfl
    | some due =>
      have := not_lt.2 (hlate due hd)
      simp [this]
  have halarms : ((r.beneath a status).alarms.map (Alarm.ring isDue)).map (fun b =>
        { b with due := b.due.map fun t =>
          if w.time < t && t < soon w.time then w.time else t }) =
      ((r.alarms.map (Alarm.ring isDue)).map fun b =>
        { b with due := b.due.map fun t =>
          if w.time < t && t < soon w.time then w.time else t }) ++ [a] := by
    unfold beneath
    rw [List.map_append, List.map_append, List.map_singleton, List.map_singleton, hring, hhaste]
  unfold resume
  rw [hrung]
  unfold hastened
  refine Prod.ext ?_ rfl
  show Run.mk _ _ _ _ _ _ _ _ _ _ = Run.mk _ _ _ _ _ _ _ _ _ _
  congr 1

theorem follows_suspend (ha : a.rung = false) (seconds : Rat) :
    Follows a (suspend seconds) (suspend seconds) := by
  intro r status h hh
  refine ⟨status, ?_⟩
  obtain ⟨-, -, hfirst⟩ := turnAfter_later seconds h
  have hu : (r.beneath a status).interrupt.bind Interrupt.stop? = none := h.unstopped
  rw [suspend_of_unstopped seconds h.unstopped] at hh ⊢
  have hlate : ∀ due ∈ a.due, (turnAfter seconds r).1.time < due ∧
      soon (turnAfter seconds r).1.time ≤ due := by
    intro due hd
    rcases hh.early due hd with ⟨t, hf⟩ | hlate
    · exact absurd hf (hfirst t)
    · exact hlate
  obtain ⟨ht, hnot⟩ := turnAfter_beneath ha seconds status h hlate
  rw [suspend_of_unstopped seconds hu, ht]
  exact resume_beneath ha _ _ r status hnot fun due hd => (hlate due hd).2

/-! ### Sending -/

theorem follows_andThen {v v' w w' : Work} (hv : Follows a v w) (hv' : Follows a v' w')
    (hl : ∀ {r}, Timely r → Later r (v r).1) (hl' : ∀ {r}, Timely r → Later r (v' r).1) :
    Follows a (Work.andThen v v') (Work.andThen w w') := by
  intro r status h hh
  cases e : v r with
  | mk s out =>
    have hs : Later r s := by simpa [e] using hl h
    cases out with
    | error f =>
      rw [Work.andThen_of_error e] at hh ⊢
      obtain ⟨status', e'⟩ := hv r status h (by rwa [e])
      rw [e] at e'
      exact ⟨status', Work.andThen_of_error e'⟩
    | ok =>
      rw [Work.andThen_of_ok e] at hh ⊢
      obtain ⟨status', e'⟩ := hv r status h (by rw [e]; exact hh.back (hl' hs.timely))
      rw [e] at e'
      rw [Work.andThen_of_ok e']
      exact hv' s status' hs.timely hh

theorem note_of_isWellFormed {m : Message} (h : m.isWellFormed) (r : Run) :
    ∃ status, note m r = ({ r with status }, .ok ()) := by
  cases m with
  | start status _ =>
    cases status with
    | none => cases h
    | some status => exact ⟨status, rfl⟩
  | body _ _ => exact ⟨r.status, rfl⟩
  | other kind =>
    cases kind with
    | none => cases h
    | some _ => exact ⟨r.status, rfl⟩

theorem follows_wait (ha : a.rung = false) (sink : Receiver) :
    Follows a (wait sink) (wait sink) := by
  unfold wait
  cases sink.delay with
  | none => exact fun r status _ _ => ⟨status, rfl⟩
  | some seconds => exact follows_suspend ha seconds

theorem follows_finish (sink : Receiver) (call : Nat) (m : Message) :
    Follows a (finish sink call m) (finish sink call m) := by
  unfold finish
  split
  · exact fun r status _ _ => ⟨status, rfl⟩
  · exact fun r status _ _ => ⟨status, rfl⟩

theorem follows_send (ha : a.rung = false) (sink : Receiver) (m : Message) :
    Follows a (send sink m) (send sink m) := by
  intro r status h hh
  let handed := r.handed ++ [⟨r.now, m⟩]
  have hf := follows_andThen (follows_wait ha sink)
    (follows_finish sink handed.length m) (later_wait sink) (later_finish sink _ m)
  exact hf { r with handed } status (h.handing handed) hh

theorem follows_noteAndSend (ha : a.rung = false) (sink : Receiver) (m : Message) :
    Follows a (send sink m) (noteAndSend sink m) := by
  intro r status h hh
  have hm : m.isWellFormed := by
    refine hh.formed ⟨r.now, m⟩ ?_
    rw [handed_send]
    simp
  obtain ⟨noted, e⟩ := note_of_isWellFormed hm (r.beneath a status)
  rw [noteAndSend, Work.andThen_of_ok e]
  exact follows_send ha sink m r noted h hh

/-! ### Scripts -/

theorem follows_handle {caught : List String} {handler handler' : String → Work}
    (hf : ∀ name, Follows a (handler name) (handler' name)) {r : Run} (status : Json)
    (h : Timely r) (out : Outcome) (hh : Harmless a (handle caught handler (r, out)).1) :
    ∃ status', handle caught handler' (r.beneath a status, out) =
      ((handle caught handler (r, out)).1.beneath a status',
        (handle caught handler (r, out)).2) := by
  cases out with
  | ok => exact ⟨status, rfl⟩
  | error f =>
    unfold handle at hh ⊢
    dsimp only at hh ⊢
    split
    · rename_i hc
      rw [if_pos hc] at hh
      exact hf f.name r status h hh
    · exact ⟨status, rfl⟩

theorem follows_cleanUp {cleanup cleanup' : Work} (hf : Follows a cleanup cleanup') {r : Run}
    (status : Json) (h : Timely r) (out : Outcome)
    (hh : Harmless a (cleanUp cleanup (r, out)).1) :
    ∃ status', cleanUp cleanup' (r.beneath a status, out) =
      ((cleanUp cleanup (r, out)).1.beneath a status', (cleanUp cleanup (r, out)).2) := by
  cases e : cleanup r with
  | mk s result =>
    cases result <;>
    · simp only [cleanUp, e] at hh ⊢
      obtain ⟨status', e'⟩ := hf r status h (by rwa [e])
      rw [e']
      simp only [e]
      exact ⟨status', rfl⟩

theorem follows_recover {caught : List String} {body body' cleanup cleanup' : Work}
    {handler handler' : String → Work} (hb : Follows a body body')
    (hf : ∀ name, Follows a (handler name) (handler' name)) (hc : Follows a cleanup cleanup')
    (lb : ∀ {r}, Timely r → Later r (body r).1)
    (lf : ∀ name {r}, Timely r → Later r (handler name r).1)
    (lc : ∀ {r}, Timely r → Later r (cleanup r).1) :
    Follows a (fun r => recover caught handler cleanup (body r))
      (fun r => recover caught handler' cleanup' (body' r)) := by
  intro r status h hh
  cases e : body r with
  | mk s out =>
    have hs : Later r s := by simpa [e] using lb h
    have ht : Later s (handle caught handler (s, out)).1 :=
      (later_steps .prompt).handle (fun name _ => lf name) (s, out) hs.timely
    cases e₁ : handle caught handler (s, out) with
    | mk t result =>
      rw [e₁] at ht
      have keeps : Keeps (fun a b => Timely a → Later a b) cleanup := fun _ => lc
      have hu : Later t (cleanUp cleanup (t, result)).1 :=
        Stepwise.cleanUp keeps (t, result) ht.timely
      simp only [recover, e, e₁] at hh ⊢
      have hht := hh.back hu
      obtain ⟨status₁, e₂⟩ := hb r status h (by rw [e]; exact hht.back ht)
      obtain ⟨status₂, e₃⟩ := follows_handle hf status₁ hs.timely out (by rw [e₁]; exact hht)
      rw [e] at e₂
      rw [e₁] at e₃
      rw [e₂, e₃]
      exact follows_cleanUp hc status₂ ht.timely result hh

/-- A scope that was entered above the alarm is left above it. -/
theorem leave_beneath {s : Run} {n : Nat} (status : Json) (out : Outcome)
    (hlen : s.alarms.length = n + 1) :
    (s.beneath a status).leave out = ((s.leave out).1.beneath a status, (s.leave out).2) := by
  obtain ⟨alarm, rest, ha⟩ := List.exists_cons_of_length_eq_add_one hlen
  have he : (s.beneath a status).expired = s.expired := by
    unfold expired beneath
    rw [ha]
    rfl
  have hexcused : (s.beneath a status).excused = s.excused := by
    unfold excused beneath
    rw [ha]
    rfl
  have hleft : (s.beneath a status).left = s.left.beneath a status := by
    unfold left
    rw [he]
    unfold beneath
    rw [ha]
    rfl
  unfold leave
  rw [hleft]
  refine Prod.ext rfl ?_
  unfold translated
  rw [he, hexcused, hleft]
  rfl

theorem follows_scope (limit : Option Rat) {v w : Work} (hf : Follows a v w)
    (hb : Keeps Balanced v) : Follows a (scope limit v) (scope limit w) := by
  intro r status h hh
  cases e : v (r.enter limit) with
  | mk s out =>
    have hlen : s.alarms.length = r.alarms.length + 1 := by
      have := hb (r.enter limit)
      rwa [e] at this
    have hs : scope limit v r = s.leave out := by simp only [scope, e]
    rw [hs] at hh ⊢
    obtain ⟨status', e'⟩ := hf (r.enter limit) status (h.enter limit)
      (by rw [e]; exact ⟨hh.early, hh.formed⟩)
    have hw : scope limit w (r.beneath a status) = (s.beneath a status').leave out := by
      rw [e] at e'
      have : (r.beneath a status).enter limit = (r.enter limit).beneath a status := rfl
      simp only [scope, this, e']
    refine ⟨status', hw.trans ?_⟩
    exact leave_beneath status' out hlen

theorem follows_mark (name : String) : Follows a (mark name) (mark name) :=
  fun _ status _ _ => ⟨status, rfl⟩

theorem follows_execWith (ha : a.rung = false) (sink : Receiver) (script : Script) :
    Follows a (execWith (send sink) script) (exec sink script) := by
  have hl : ∀ script {r}, Timely r → Later r (execWith (send sink) script r).1 :=
    fun script {r} h => later_execWith sink script h
  have hb : ∀ script, Keeps Balanced (execWith (send sink) script) :=
    (balanced_steps (balanced_send sink)).execWith
  induction script with
  | done => exact fun r status _ _ => ⟨status, rfl⟩
  | sleep seconds next ih =>
    exact follows_andThen (follows_suspend ha seconds) ih (later_suspend seconds) (hl next)
  | send message next ih =>
    exact follows_andThen (follows_noteAndSend ha sink message) ih (later_send sink message)
      (hl next)
  | fail failure => exact fun r status _ _ => ⟨status, rfl⟩
  | mark name next ih =>
    exact follows_andThen (follows_mark name) ih ((later_steps sink).mark name _) (hl next)
  | within limit body next ihb ih =>
    exact follows_andThen (follows_scope limit ihb (hb body)) ih
      ((later_steps sink).scope limit (fun _ => hl body) _) (hl next)
  | attempt body caught handler cleanup next ihb ihh ihc ih =>
    refine follows_andThen
      (follows_recover ihb ihh ihc (hl body) (fun name => hl (handler name)) (hl cleanup)) ih ?_
      (hl next)
    exact (later_steps sink).recover (fun _ => hl body) (fun name _ => hl (handler name))
      (fun _ => hl cleanup) _

end

end Run

/-! ### The guard -/

namespace Guard

open Run

/-- A cancellation from outside so many seconds after the start, or none. -/
def cancellation (start : Rat) (cancelAt : Option Rat) : Option Interrupt :=
  cancelAt.map fun seconds => .timer (after start seconds)

/-- The handler without the guard: nothing limits it, and its messages go straight to the
receiver. -/
def unguarded (reckoning : Reckoning) (sink : Receiver) (start : Rat) (cancelAt : Option Rat)
    (script : Script) : Run × Outcome :=
  execWith (send sink) script (Run.begin reckoning (.first start) [] (cancellation start cancelAt))

theorem timely_begin {reckoning : Reckoning} {start : Rat} (hs : nearest start = start)
    (cancelAt : Option Rat) :
    Timely (Run.begin reckoning (.first start) [] (cancellation start cancelAt)) := by
  refine Timely.hastened ⟨rfl, hs, fun i hi => ?_, by simp⟩
  obtain ⟨seconds, _, rfl⟩ := Option.map_eq_some_iff.1 hi
  exact ⟨_, rfl, nearest_after ..⟩

/-- A harmless run is the run without the guard, but for the status that has been noted. -/
theorem run_of_harmless {reckoning : Reckoning} {sink : Receiver} {budget : Budget} {start : Rat}
    {cancelAt : Option Rat} {script : Script} (hs : nearest start = start)
    (h : Harmless ⟨budget.limit?.map (after start), 0, false⟩
      (unguarded reckoning sink start cancelAt script).1) :
    ∃ status, run reckoning sink budget start (cancellation start cancelAt) script =
      ⟨{ (unguarded reckoning sink start cancelAt script).1 with status },
        (unguarded reckoning sink start cancelAt script).2, []⟩ := by
  let r := Run.begin reckoning (.first start) [] (cancellation start cancelAt)
  let a : Alarm := ⟨budget.limit?.map (after start), 0, false⟩
  obtain ⟨status, e⟩ := follows_execWith (a := a) rfl sink script r (.int 0) (timely_begin hs _) h
  have hbalanced : (unguarded reckoning sink start cancelAt script).1.alarms = [] := by
    have := (balanced_steps (balanced_send sink)).execWith script r
    exact List.length_eq_zero_iff.1 this
  change handled reckoning sink budget start (cancellation start cancelAt) script =
    ((unguarded reckoning sink start cancelAt script).1.beneath a status,
      (unguarded reckoning sink start cancelAt script).2) at e
  generalize unguarded reckoning sink start cancelAt script = u at hbalanced e ⊢
  obtain ⟨u, out⟩ := u
  dsimp only at hbalanced e
  have hexpired : (u.beneath a status).expired = false := by
    unfold expired beneath
    rw [hbalanced]
    rfl
  have hleft : (u.beneath a status).left = { u with status } := by
    unfold left
    rw [hexpired]
    unfold beneath
    simp only [hbalanced]
    rfl
  have htranslated : (u.beneath a status).translated out = out := by
    unfold translated
    split
    · rw [hexpired]
      rfl
    · rfl
  refine ⟨status, ?_⟩
  rw [run_eq, e]
  simp only [isOverdue, leave, hexpired, hleft, htranslated]
  rfl

/-- **A handler that is done in time runs under the guard as it would run without one**: the
receiver gets the same messages at the same times, the same marks are left, the run takes the
same time and ends in the same way, and the guard logs nothing. In time is a handler that is
never suspended, and one that is done so long before the deadline that the clock can tell them
apart; all messages that it hands over have a type, and its response starts a status. -/
theorem guard_transparent (reckoning : Reckoning) (sink : Receiver) (budgets : Budgets)
    (path : String) (start : Rat) (cancelAt : Option Rat) (script : Script)
    (hstart : nearest start = start) :
    let alone := unguarded reckoning sink start cancelAt script
    let result :=
      run reckoning sink (budgets.choose path) start (cancellation start cancelAt) script
    (∀ seconds ∈ (budgets.choose path).limit?,
      alone.1.waking = .first start ∨
        (alone.1.now < after start seconds ∧ soon alone.1.now ≤ after start seconds)) →
    (∀ s ∈ alone.1.handed, s.message.isWellFormed) →
    result.run.sent = alone.1.sent ∧ result.run.handed = alone.1.handed ∧
      result.run.marks = alone.1.marks ∧ result.run.now = alone.1.now ∧
      result.outcome = alone.2 ∧ result.events = [] := by
  intro alone result htime hformed
  have harmless : Harmless ⟨(budgets.choose path).limit?.map (after start), 0, false⟩ alone.1 := by
    refine ⟨fun due hd => ?_, hformed⟩
    obtain ⟨seconds, hseconds, rfl⟩ := Option.map_eq_some_iff.1 hd
    rcases htime seconds hseconds with hfirst | hlate
    · exact .inl ⟨start, hfirst⟩
    · exact .inr hlate
  obtain ⟨status, e⟩ := run_of_harmless hstart harmless
  have e : result = _ := e
  rw [e]
  exact ⟨rfl, rfl, rfl, rfl, rfl, rfl⟩

/-- A handler that sleeps for half of its time and then answers. -/
theorem answer_in_time_transparent :
    let script : Script := .sleep (1 / 2) (.send (.start (some (.int 200)) []) .done)
    let budgets : Budgets := ⟨.whole 1, .whole 1, .whole 1⟩
    let alone := unguarded .sinceEntry .prompt 1000 none script
    let result := run .sinceEntry .prompt (budgets.choose "/") 1000 (cancellation 1000 none) script
    alone.1.now < after 1000 1 ∧ alone.1.sent.length = 1 ∧ result.run.sent = alone.1.sent := by
  intro script budgets alone result
  have hstart : nearest 1000 = 1000 := by decide +kernel
  have htime : ∀ seconds ∈ (budgets.choose "/").limit?,
      alone.1.waking = .first 1000 ∨
        (alone.1.now < after 1000 seconds ∧ soon alone.1.now ≤ after 1000 seconds) := by
    decide +kernel
  have hformed : ∀ s ∈ alone.1.handed, s.message.isWellFormed := by decide +kernel
  exact ⟨by decide +kernel, by decide +kernel,
    (guard_transparent .sinceEntry .prompt budgets "/" 1000 none script hstart htime hformed).1⟩

/-- Being done before the deadline is not enough. A handler that wakes up half a nanosecond before
it is cancelled all the same, so that the mark that it would leave is missing; and a response
start without a status is not handed to the receiver. -/
theorem early_is_not_enough :
    let dozing : Script := .sleep (nearest (9999999995 / 10000000000)) (.mark "a" .done)
    let malformed : Script := .send (.start none []) .done
    ((unguarded .sinceEntry .prompt 1000 none dozing).1.now < after 1000 1 ∧
      (unguarded .sinceEntry .prompt 1000 none dozing).1.marks.length = 1 ∧
      (run .sinceEntry .prompt (.whole 1) 1000 none dozing).run.marks = [] ∧
      (run .sinceEntry .prompt (.whole 1) 1000 none dozing).events.length = 1) ∧
    ((unguarded .sinceEntry .prompt 1000 none malformed).1.now < after 1000 1 ∧
      (unguarded .sinceEntry .prompt 1000 none malformed).1.sent.length = 1 ∧
      (run .sinceEntry .prompt (.whole 1) 1000 none malformed).run.sent.length = 0) := by
  decide +kernel

end Guard

end Gatehouse
