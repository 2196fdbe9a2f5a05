import Gatehouse.Proofs.Deadline.Answer
import Gatehouse.Proofs.Script.Progress
import Gatehouse.Proofs.Script.Requests

/-! # The deadline is kept

The guard's alarm is set before all others, so it is the last of the pile. While it is still to
ring (`Ticking`) no turn comes after the moment for which it is set (`turnAfter_le`). Once it has
rung (`Struck`), a script that lets cancellations through ends in `CancelledError`: no scope takes
the cancellation for its own, since the request of the guard is left when that of the scope has
been taken back (`heeds_scope`). `Heeds` says both of a piece of work, `heeds_exec` of every such
script, and `deadline_enforced` what follows for the handler and the guard. -/

namespace Gatehouse

theorem Waking.time_le_of_not_precedes {p q : Waking} (h : ¬p.precedes q = true) :
    q.time ≤ p.time := by
  unfold Waking.precedes at h
  split at h
  · exact (not_le.1 fun hle => h (decide_eq_true hle)).le
  · exact not_lt.1 fun hlt => h (decide_eq_true hlt)
  · split at h
    · exact not_lt.1 fun hlt => h (decide_eq_true hlt)
    · exact ge_of_eq (not_not.1 ‹_›)

namespace Run

variable {latest : Rat} {r : Run}

/-! ### On time -/

/-- Nothing has happened later than that. -/
structure OnTime (latest : Rat) (r : Run) : Prop where
  now : r.now ≤ latest
  handed : ∀ s ∈ r.handed, s.time ≤ latest
  sent : ∀ s ∈ r.sent, s.time ≤ latest
  marks : ∀ m ∈ r.marks, m.2 ≤ latest

/-- The first alarm of all is still to ring, and no later than that. -/
def Ticking (latest : Rat) (r : Run) : Prop :=
  ∃ due before, r.alarms.getLast? = some ⟨some due, before, false⟩ ∧ due ≤ latest

/-- The first alarm of all has rung. -/
def Struck (r : Run) : Prop := ∃ a, r.alarms.getLast? = some a ∧ a.rung = true

/-- A run on time, before the first alarm of all has rung. -/
structure Under (latest : Rat) (r : Run) : Prop extends OnTime latest r where
  ticking : Ticking latest r
  /-- Each limit that has rung has its request. -/
  covered : r.rungs ≤ r.requests

/-- What is left after such a run: it is on time, and if the alarm has rung it has ended in
`CancelledError`. -/
structure Heeded (latest : Rat) (result : Run × Outcome) : Prop where
  onTime : OnTime latest result.1
  alarm : Ticking latest result.1 ∨
    Struck result.1 ∧ ∃ m, result.2 = .error (.cancelled m)

/-- Work that begins before the alarm has rung is on time, and cut short if the alarm rings. -/
def Heeds (latest : Rat) (w : Work) : Prop := ∀ r, Under latest r → Heeded latest (w r)

theorem not_struck_of_ticking (h : Ticking latest r) : ¬Struck r := by
  rintro ⟨a, hs, hrung⟩
  obtain ⟨due, before, ht, -⟩ := h
  rw [ht] at hs
  cases hs
  cases hrung

theorem Heeded.cancelled {result : Run × Outcome} (h : Heeded latest result)
    (hs : Struck result.1) : ∃ m, result.2 = .error (.cancelled m) := by
  rcases h.alarm with ht | ⟨-, hm⟩
  · exact absurd hs (not_struck_of_ticking ht)
  · exact hm

/-! ### Suspension -/

theorem earliest_le_of_mem {t u : Rat} {l : List Rat} (h : u ∈ l) : earliest t l ≤ u := by
  induction l using List.reverseRecOn with
  | nil => cases h
  | append_singleton l v ih =>
    rw [earliest_concat]
    rcases List.mem_append.1 h with h | h
    · split
      · exact ‹v < _›.le.trans (ih h)
      · exact ih h
    · obtain rfl := List.mem_singleton.1 h
      split
      · exact le_rfl
      · exact not_lt.1 ‹_›

theorem carried_le (due now : Rat) (visits : List Rat) :
    Waking.carried due now visits ≤ due := by
  unfold Waking.carried
  cases h : visits.find? fun v => now < v && v < due && due < Moment.soon v with
  | none => exact le_rfl
  | some v =>
    have hv := List.find?_some h
    simp only [Bool.and_eq_true, decide_eq_true_eq] at hv
    exact hv.1.2.le

theorem mem_dues_of_getLast? {due : Rat} {before : Nat}
    (h : r.alarms.getLast? = some ⟨some due, before, false⟩) :
    due ∈ r.dues :=
  List.mem_append_right _ (List.mem_filterMap.2 ⟨_, List.mem_of_getLast? h, rfl⟩)

/-- No turn comes after the alarm is due. -/
theorem turnAfter_le (h : Under latest r) (seconds : Rat) :
    (turnAfter seconds r).1.time ≤ latest := by
  obtain ⟨due, before, hlast, hdue⟩ := h.ticking
  by_cases hs : seconds ≤ 0
  · rw [turnAfter_of_nonpos hs, Waking.time_next]
    exact h.now
  by_cases hd : (r.dues.any fun t => t ≤ r.now) = true
  · rw [turnAfter_of_due hs hd, Waking.time_next, Waking.time_next]
    exact h.now
  · let timer := earliest (Moment.after r.now seconds) r.dues
    have hturn : (turnAfter seconds r).1 =
        .timer (Waking.carried timer r.now r.visits) timer r.waking := by
      simp only [turnAfter, hs, hd, if_false]
      rfl
    rw [hturn]
    calc Waking.carried timer r.now r.visits
      _ ≤ timer := carried_le ..
      _ ≤ due := earliest_le_of_mem (mem_dues_of_getLast? hlast)
      _ ≤ latest := hdue

theorem heeded_resume (h : Under latest r) {w : Waking} (hw : w.time ≤ latest)
    (isDue : Rat → Bool) : Heeded latest (resume w isDue r) := by
  refine ⟨⟨hw, h.handed, h.sent, h.marks⟩, ?_⟩
  obtain ⟨due, before, hlast, hdue⟩ := h.ticking
  have hmem : due ∈ r.dues := mem_dues_of_getLast? hlast
  let haste (t : Rat) : Rat := if w.time < t && t < Moment.soon w.time then w.time else t
  have hhaste : haste due ≤ latest := by
    show (if _ then w.time else due) ≤ latest
    split
    · exact hw
    · exact hdue
  have halarms : (resume w isDue r).1.alarms.getLast? =
      some ⟨some (haste due), before, isDue due⟩ := by
    show (((r.alarms.map (Alarm.ring isDue)).map fun a =>
      { a with due := a.due.map haste }).getLast?) = _
    rw [List.getLast?_map, List.getLast?_map, hlast]
    cases hd : isDue due <;> simp [Alarm.ring, Alarm.pending, hd]
  cases hd : isDue due with
  | false => exact .inl ⟨haste due, before, hd ▸ halarms, hhaste⟩
  | true =>
    refine .inr ⟨⟨_, halarms, hd⟩, "", ?_⟩
    have hne : (r.dues.filter isDue).isEmpty = false :=
      List.isEmpty_eq_false_iff.2 (List.ne_nil_of_mem (List.mem_filter.2 ⟨hmem, hd⟩))
    show (if (r.dues.filter isDue).isEmpty then _ else _) = _
    rw [hne]
    rfl

theorem heeds_suspend (seconds : Rat) : Heeds latest (suspend seconds) := by
  intro r h
  have hturn := turnAfter_le h seconds
  unfold suspend
  dsimp only
  split
  · rename_i stop _
    split
    · exact heeded_resume h hturn _
    · -- whoever else is due, too, it ends in the cancellation from outside
      have hstop : stop.next.time ≤ latest := by
        rw [Waking.time_next]
        exact (Waking.time_le_of_not_precedes ‹_›).trans hturn
      have hu : Under latest { r with interrupt := none, requests := r.requests + 1 } :=
        ⟨⟨h.now, h.handed, h.sent, h.marks⟩, h.ticking, Nat.le_succ_of_le h.covered⟩
      obtain ⟨onTime, alarm⟩ := heeded_resume hu hstop fun t => t < Moment.soon stop.time
      refine ⟨onTime, alarm.imp_right ?_⟩
      rintro ⟨hstruck, -⟩
      exact ⟨hstruck, "", rfl⟩
  · exact heeded_resume h hturn _

/-! ### Sending -/

theorem Under.of_eq {s : Run} (h : Under latest r) (ha : s.alarms = r.alarms)
    (hq : s.requests = r.requests) (ht : OnTime latest s) : Under latest s where
  toOnTime := ht
  ticking := by
    unfold Ticking
    rw [ha]
    exact h.ticking
  covered := by
    unfold rungs
    rw [ha, hq]
    exact h.covered

theorem Heeds.andThen {v w : Work} (hv : Heeds latest v) (hk : Keeps Accounts v)
    (hw : Heeds latest w) : Heeds latest (Work.andThen v w) := by
  intro r h
  have h₁ := hv r h
  have hc := (hk r h.covered).covered h.covered
  cases e : v r with
  | mk s out =>
    rw [e] at h₁ hc
    cases out with
    | error f =>
      rw [Work.andThen_of_error e]
      exact h₁
    | ok =>
      rw [Work.andThen_of_ok e]
      -- had the alarm rung, the first would not have succeeded
      rcases h₁.alarm with ht | ⟨-, m, hm⟩
      · exact hw s ⟨h₁.onTime, ht, hc⟩
      · cases hm

theorem heeds_of_frame {w : Work} (ha : ∀ r, (w r).1.alarms = r.alarms)
    (ht : ∀ r, OnTime latest r → OnTime latest (w r).1) : Heeds latest w := by
  intro r h
  refine ⟨ht r h.toOnTime, .inl ?_⟩
  unfold Ticking
  rw [ha]
  exact h.ticking

theorem heeds_fail (f : Failure) : Heeds latest (Work.fail f) :=
  heeds_of_frame (fun _ => rfl) fun _ h => h

theorem heeds_succeed : Heeds latest Work.succeed := heeds_of_frame (fun _ => rfl) fun _ h => h

theorem heeds_mark (name : String) : Heeds latest (mark name) := by
  refine heeds_of_frame (fun _ => rfl) fun r h => ⟨h.now, h.handed, h.sent, ?_⟩
  intro m hm
  rcases List.mem_append.1 hm with hm | hm
  · exact h.marks m hm
  · obtain rfl := List.mem_singleton.1 hm
    exact h.now

theorem heeds_note (m : Message) : Heeds latest (note m) := by
  refine heeds_of_frame (fun r => ?_) fun r h => ?_
  · obtain e | ⟨_, e⟩ := note_cases m r <;> rw [e]
  · obtain e | ⟨_, e⟩ := note_cases m r <;> rw [e]
    · exact ⟨h.now, h.handed, h.sent, h.marks⟩
    · exact h

theorem heeds_wait (sink : Receiver) : Heeds latest (wait sink) := by
  unfold wait
  cases sink.delay with
  | none => exact heeds_succeed
  | some seconds => exact heeds_suspend seconds

theorem heeds_finish (sink : Receiver) (call : Nat) (m : Message) :
    Heeds latest (finish sink call m) := by
  refine heeds_of_frame (fun r => ?_) fun r h => ?_
  · obtain ⟨_, e, -⟩ := finish_frame sink call m r
    rw [e]
  · obtain ⟨sent, e, ⟨-, rfl⟩ | ⟨-, rfl⟩⟩ := finish_frame sink call m r <;> rw [e]
    · refine ⟨h.now, h.handed, fun s hs => ?_, h.marks⟩
      rcases List.mem_append.1 hs with hs | hs
      · exact h.sent s hs
      · obtain rfl := List.mem_singleton.1 hs
        exact h.now
    · exact ⟨h.now, h.handed, h.sent, h.marks⟩

theorem heeds_send (sink : Receiver) (m : Message) : Heeds latest (send sink m) := by
  intro r h
  let handed := r.handed ++ [⟨r.now, m⟩]
  have hu : Under latest { r with handed } := by
    refine h.of_eq rfl rfl ⟨h.now, fun s hs => ?_, h.sent, h.marks⟩
    rcases List.mem_append.1 hs with hs | hs
    · exact h.handed s hs
    · obtain rfl := List.mem_singleton.1 hs
      exact h.now
  exact (heeds_wait sink).andThen (fun r _ => settles_wait sink r)
    (heeds_finish sink handed.length m) _ hu

theorem heeds_noteAndSend (sink : Receiver) (m : Message) : Heeds latest (noteAndSend sink m) :=
  (heeds_note m).andThen (fun r _ => settles_note m r) (heeds_send sink m)

/-! ### Scopes -/

theorem getLast?_tail {l : List Alarm} {n : Nat} (h : l.length = n + 2) :
    l.tail.getLast? = l.getLast? := by
  match l, h with
  | _ :: y :: rest, _ => rw [List.tail_cons, List.getLast?_cons_cons]

/-- If both the limit of a scope and the first alarm of all have rung since the scope was entered
then more requests are left than there were then, also when that of the scope has been taken
back. -/
theorem requests_left_of_struck {limit : Option Rat} {s : Run} {n : Nat}
    (h : Settles (r.enter limit) s) (hn : r.alarms.length = n + 1) (ht : Ticking latest r)
    (hs : Struck s) (he : s.expired = true) : r.requests < s.left.requests := by
  obtain ⟨due, before, hlast, -⟩ := ht
  obtain ⟨a, hstruck, hrung⟩ := hs
  have hstay : StayRung (⟨_, _, _⟩ :: r.alarms) s.alarms := h.alarms
  cases hall : s.alarms with
  | nil => simp [hall] at hstruck
  | cons x rest =>
    rw [hall] at hstay hstruck
    have hx : x.rung = true := by simpa [expired, hall] using he
    have hrest : StayRung r.alarms rest := (List.forall₂_cons.1 hstay).2
    have hlen : (x :: rest).length = n + 2 := congrArg (· + 1) (hrest.length_eq.symm.trans hn)
    have hlt : r.rungs < rest.countP Alarm.rung :=
      hrest.countP_lt hlast ((getLast?_tail hlen).trans hstruck) rfl hrung
    have hrungs : s.rungs = rest.countP Alarm.rung + 1 := by
      rw [rungs, hall, List.countP_cons_of_pos hx]
    have hq : s.requests + s.coming + r.rungs = r.requests + r.coming + s.rungs := h.requests
    have hcoming : s.coming ≤ r.coming := h.coming
    have hleft : s.left.requests = s.requests - 1 := by simp [left, he]
    omega

/-- A scope that was entered before the alarm has rung does not take its cancellation for its
own. -/
theorem heeds_scope (limit : Option Rat) {w : Work} (hw : Heeds latest w) (hb : Keeps Balanced w)
    (hk : Keeps Accounts w) : Heeds latest (scope limit w) := by
  intro r h
  obtain ⟨due, before, hlast, hdue⟩ := h.ticking
  obtain ⟨n, hn⟩ : ∃ n, r.alarms.length = n + 1 :=
    Nat.exists_eq_succ_of_ne_zero fun h0 => by simp [List.length_eq_zero_iff.1 h0] at hlast
  have hu : Under latest (r.enter limit) := by
    refine ⟨⟨h.now, h.handed, h.sent, h.marks⟩, ⟨due, before, ?_, hdue⟩, ?_⟩
    · have hlen : (r.enter limit).alarms.length = n + 2 := by simp [enter, hn]
      exact (getLast?_tail hlen).symm.trans hlast
    · rw [rungs_enter]
      exact h.covered
  have hlen : (w (r.enter limit)).1.alarms.length = n + 2 := by
    rw [hb (r.enter limit)]
    simp [enter, hn]
  have hsettles : Settles (r.enter limit) (w (r.enter limit)).1 := hk _ hu.covered
  obtain ⟨onTime, alarm⟩ := hw _ hu
  show Heeded latest ((w (r.enter limit)).1.leave (w (r.enter limit)).2)
  generalize w (r.enter limit) = result at hlen hsettles onTime alarm
  obtain ⟨s, out⟩ := result
  have hleft : s.left.alarms.getLast? = s.alarms.getLast? := getLast?_tail hlen
  refine ⟨⟨onTime.now, onTime.handed, onTime.sent, onTime.marks⟩, ?_⟩
  rcases alarm with ⟨due, before, ht, hd⟩ | ⟨hstruck, m, hm⟩
  · exact .inl ⟨due, before, hleft.trans ht, hd⟩
  · obtain rfl : out = .error (.cancelled m) := hm
    obtain ⟨a, ha, hrung⟩ := hstruck
    refine .inr ⟨⟨a, hleft.trans ha, hrung⟩, m, ?_⟩
    exact hsettles.translated (requests_left_of_struck hsettles hn h.ticking ⟨a, ha, hrung⟩) m

/-! ### Scripts -/

/-- A handler is begun before the alarm has rung, or not at all. -/
theorem heeds_attempt {body : Work} {caught : List String} {handler : String → Work}
    (hb : Heeds latest body) (hk : Keeps Accounts body) (hn : "CancelledError" ∉ caught)
    (hh : ∀ name, Heeds latest (handler name)) :
    Heeds latest fun r => recover caught handler Work.succeed (body r) := by
  intro r h
  have h₁ := hb r h
  have hc := (hk r h.covered).covered h.covered
  show Heeded latest (handle caught handler (body r))
  generalize body r = result at h₁ hc
  obtain ⟨s, out⟩ := result
  cases out with
  | ok => exact h₁
  | error f =>
    unfold handle
    dsimp only
    split
    · rcases h₁.alarm with ht | ⟨-, m, hm⟩
      · exact hh f.name s ⟨h₁.onTime, ht, hc⟩
      · obtain rfl := Except.error.inj hm
        exact absurd ‹caught.contains _ = true› (by simpa [Failure.name] using hn)
    · exact h₁

theorem heeds_exec (sink : Receiver) {script : Script} (hs : script.LetsThrough) :
    Heeds latest (exec sink script) := by
  have keeps := accounts_exec sink
  induction script with
  | done => exact heeds_succeed
  | sleep seconds next ih =>
    exact (heeds_suspend seconds).andThen (fun r _ => settles_suspend seconds r) (ih hs)
  | send message next ih =>
    exact (heeds_noteAndSend sink message).andThen (fun r _ => settles_noteAndSend sink message r)
      (ih hs)
  | fail failure => exact heeds_fail failure
  | mark name next ih =>
    exact (heeds_mark name).andThen ((accounts_steps sink).mark name) (ih hs)
  | within limit body next ihb ih =>
    refine Heeds.andThen (heeds_scope limit (ihb hs.1) ?_ (keeps body))
      ((accounts_steps sink).scope limit (keeps body)) (ih hs.2)
    exact length_alarms_exec sink body
  | attempt body caught handler cleanup next ihb ihh _ ih =>
    obtain ⟨hb, hn, hh, rfl, hnext⟩ := hs
    exact (heeds_attempt (ihb hb) (keeps body) hn fun name => ihh name (hh name)).andThen
      ((accounts_steps sink).recover (keeps body) (fun name => keeps _) (keeps .done)) (ih hnext)

end Run

namespace Guard

open Run

variable {reckoning : Reckoning} {sink : Receiver} {budget : Budget} {start : Rat}
  {interrupt : Option Interrupt} {script : Script}

/-- The handler has ended in a cancellation that somebody asked for. -/
structure CutShort (h : Run × Outcome) : Prop where
  cancelled : ∃ m, h.2 = .error (.cancelled m)
  requested : 0 < h.1.requests

theorem under_begin {seconds : Rat} (h : budget.limit? = some seconds) :
    Under (max start (Moment.after start seconds))
      ((Run.begin reckoning (.first start) [] interrupt).enter budget.limit?) := by
  refine ⟨⟨le_max_left .., nofun, nofun, nofun⟩,
    ⟨Moment.after start seconds, 0, ?_, le_max_right ..⟩, Nat.le_refl 0⟩
  rw [h]
  rfl

theorem heeded_handled (hs : script.LetsThrough) {seconds : Rat}
    (h : budget.limit? = some seconds) :
    Heeded (max start (Moment.after start seconds))
      (handled reckoning sink budget start interrupt script) :=
  heeds_exec sink hs _ (under_begin h)

theorem struck_handled :
    Struck (handled reckoning sink budget start interrupt script).1 ↔
      (handled reckoning sink budget start interrupt script).1.expired = true := by
  have hlen := length_alarms_handled reckoning sink budget start interrupt script
  rw [expired_iff hlen, Struck]
  obtain ⟨a, ha⟩ := List.length_eq_one_iff.1 hlen
  simp [ha]

theorem settles_handled (reckoning : Reckoning) (sink : Receiver) (budget : Budget)
    (start : Rat) (interrupt : Option Interrupt) (script : Script) :
    Settles ((Run.begin reckoning (.first start) [] interrupt).enter budget.limit?)
      (handled reckoning sink budget start interrupt script).1 :=
  accounts_exec sink script _ (Nat.le_refl 0)

theorem coming_begin (reckoning : Reckoning) (start : Rat) (interrupt : Option Interrupt)
    (limit : Option Rat) :
    ((Run.begin reckoning (.first start) [] interrupt).enter limit).coming =
      interrupt.toList.length :=
  coming_hastened ⟨reckoning, .first start, [], interrupt, 0, [], [], .int 0, [], []⟩

/-- What asks for the end of the handler is the guard's alarm and what comes from outside. -/
theorem account_handled (reckoning : Reckoning) (sink : Receiver) (budget : Budget)
    (start : Rat) (interrupt : Option Interrupt) (script : Script) :
    let h := handled reckoning sink budget start interrupt script
    h.1.requests + h.1.coming = interrupt.toList.length + if h.1.expired then 1 else 0 := by
  intro h
  have hq := (settles_handled reckoning sink budget start interrupt script).requests
  obtain ⟨⟨due, before, rung⟩, ha⟩ :=
    List.length_eq_one_iff.1 (length_alarms_handled reckoning sink budget start interrupt script)
  change h.1.requests + h.1.coming + 0 = 0 + Run.coming _ + h.1.rungs at hq
  rw [coming_begin] at hq
  have hexpired : h.1.expired = rung := by rw [expired, show h.1.alarms = _ from ha]; rfl
  have hrungs : h.1.rungs = if rung then 1 else 0 := by
    rw [rungs, show h.1.alarms = _ from ha]
    cases rung <;> rfl
  rw [hexpired]
  omega

theorem requests_handled (reckoning : Reckoning) (sink : Receiver) (budget : Budget)
    (start : Rat) (script : Script) :
    let h := handled reckoning sink budget start none script
    h.1.requests = if h.1.expired then 1 else 0 := by
  intro h
  have hq := account_handled reckoning sink budget start none script
  have hcoming := (settles_handled reckoning sink budget start none script).coming
  change h.1.requests + h.1.coming = 0 + (if h.1.expired then 1 else 0) at hq
  change h.1.coming ≤ 0 at hcoming
  omega

/-- If the deadline passes it cuts the handler short, and if nobody cancels the handler from outside
then nothing else does. -/
theorem expired_iff_cutShort (hs : script.LetsThrough) {seconds : Rat}
    (h : budget.limit? = some seconds) :
    (handled reckoning sink budget start none script).1.expired = true ↔
      CutShort (handled reckoning sink budget start none script) := by
  have hq := requests_handled reckoning sink budget start script
  constructor
  · intro he
    refine ⟨(heeded_handled hs h).cancelled (struck_handled.2 he), ?_⟩
    simp only [he, if_true] at hq
    omega
  · rintro ⟨-, hpos⟩
    by_contra he
    simp only [he, if_false] at hq
    omega

/-- The guard takes the cancellation of its own alarm for a timeout. -/
theorem isOverdue_of_expired {m : String}
    (hm : (handled reckoning sink budget start none script).2 = .error (.cancelled m))
    (he : (handled reckoning sink budget start none script).1.expired = true) :
    isOverdue (handled reckoning sink budget start none script).1
      (handled reckoning sink budget start none script).2 = true := by
  have hq := requests_handled reckoning sink budget start script
  simp only [he, if_true] at hq
  have hleft : (handled reckoning sink budget start none script).1.left.requests = 0 := by
    show (if _ then _ else _) = 0
    rw [he, hq]
    rfl
  rw [isOverdue, he, hm, translated, he, hleft]
  rfl

/-- What the guard makes of an overdue handler. -/
theorem outcome_of_isOverdue
    (h : isOverdue (handled reckoning sink budget start interrupt script).1
      (handled reckoning sink budget start interrupt script).2 = true) :
    (run reckoning sink budget start interrupt script).outcome = .ok () ∨
      ∃ f,
        (answer sink (handled reckoning sink budget start interrupt script).1.left).2 = .error f ∧
        (run reckoning sink budget start interrupt script).outcome = .error f := by
  rw [run_eq]
  dsimp only
  rw [if_pos h]
  unfold conclude
  split
  · exact .inl rfl
  · cases e : answer sink (handled reckoning sink budget start interrupt script).1.left with
    | mk r out =>
      cases out with
      | ok => exact .inl rfl
      | error f => exact .inr ⟨f, rfl, rfl⟩

/-- What is true of a handler that lets cancellations through, where `last` is the last moment that
it has. -/
structure Enforced (reckoning : Reckoning) (sink : Receiver) (budget : Budget) (start : Rat)
    (interrupt : Option Interrupt) (script : Script) (last : Rat) : Prop where
  /-- The handler is finished by then, and all that it hands over, gets delivered and marks is. -/
  onTime : OnTime last (handled reckoning sink budget start interrupt script).1
  /-- The whole run is that of the handler and what the guard answers after it. -/
  whole : (run reckoning sink budget start interrupt script).run.marks =
      (handled reckoning sink budget start interrupt script).1.marks ∧
    ∃ own delivered,
      (run reckoning sink budget start interrupt script).run.handed =
        (handled reckoning sink budget start interrupt script).1.handed ++ own ∧
      (run reckoning sink budget start interrupt script).run.sent =
        (handled reckoning sink budget start interrupt script).1.sent ++ delivered ∧
      own.map Sent.message <+: [answerStart, answerBody]
  /-- If the deadline passes, the handler ends in the cancellation. -/
  obeyed : (handled reckoning sink budget start interrupt script).1.expired = true →
    ∃ m, (handled reckoning sink budget start interrupt script).2 = .error (.cancelled m)
  /-- A handler that nobody cancels from outside, and that ends in a cancellation somebody asked
  for, has been cut short by the deadline: this counts as expired, and the guard returns normally
  unless the receiver fails to take its answer. -/
  cutShort : interrupt = none → CutShort (handled reckoning sink budget start interrupt script) →
    Overdue (handled reckoning sink budget start interrupt script) ∧
      ((run reckoning sink budget start interrupt script).outcome = .ok () ∨
        ∃ f,
          (answer sink (handled reckoning sink budget start interrupt script).1.left).2 = .error f ∧
          (run reckoning sink budget start interrupt script).outcome = .error f)
  /-- No scope that is entered under the deadline takes its cancellation for its own, whenever its
  limit is due. -/
  passedOn : ∀ limit body (r : Run), body.LetsThrough → Under last r →
    Struck (scope limit (exec sink body) r).1 →
    ∃ m, (scope limit (exec sink body) r).2 = .error (.cancelled m)

/-- **The deadline is enforced on every handler that does not intercept it.** This holds for every
deadline, also one that has passed before the start, every receiver, every cancellation from
outside, and every script that neither catches `CancelledError` nor cleans up. -/
theorem deadline_enforced (reckoning : Reckoning) (sink : Receiver) (budgets : Budgets)
    (path : String) (start : Rat) (interrupt : Option Interrupt) {script : Script}
    (hs : script.LetsThrough) {seconds : Rat} (hb : (budgets.choose path).limit? = some seconds) :
    Enforced reckoning sink (budgets.choose path) start interrupt script
      (max start (Moment.after start seconds)) where
  onTime := (heeded_handled hs hb).onTime
  whole := by
    obtain ⟨own, delivered, hhanded, hsent, hown, -⟩ :=
      run_spec reckoning sink (budgets.choose path) start interrupt script
    exact ⟨marks_run .., own, delivered, hhanded, hsent, hown⟩
  obeyed he := (heeded_handled hs hb).cancelled (struck_handled.2 he)
  cutShort hi h := by
    subst hi
    have he := (expired_iff_cutShort hs hb).2 h
    obtain ⟨m, hm⟩ := h.cancelled
    have ho := isOverdue_of_expired hm he
    exact ⟨(isOverdue_iff (length_alarms_handled ..)).1 ho, outcome_of_isOverdue ho⟩
  passedOn limit body r hbody hr hstruck := by
    have hscope : Heeds (max start (Moment.after start seconds))
        (scope limit (exec sink body)) :=
      heeds_scope limit (heeds_exec sink hbody) (length_alarms_exec sink body)
        (accounts_exec sink body)
    exact (hscope r hr).cancelled hstruck

/-- A limit that is due together with the deadline, and a handler that is ready for it. -/
theorem limit_due_with_deadline :
    let script : Script := .attempt (.within (some 2) (.sleep 5 .done) .done) ["TimeoutError"]
      (fun _ => .sleep 3 (.mark "went on" .done)) .done .done
    let budgets : Budgets := ⟨.whole 2, .whole 2, .whole 2⟩
    let h := handled .sinceEntry .prompt (.whole 2) 1000 none script
    script.LetsThrough ∧ (budgets.choose "/").limit? = some 2 ∧ CutShort h ∧ h.1.now ≤ 1002 ∧
      Overdue h := by
  intro script budgets h
  have hs : script.LetsThrough :=
    ⟨⟨trivial, trivial⟩, by decide, fun _ => trivial, rfl, trivial⟩
  have hb : (budgets.choose "/").limit? = some 2 := by decide +kernel
  have hcut : CutShort h := ⟨⟨"", by decide +kernel⟩, by decide +kernel⟩
  have henforced := deadline_enforced .sinceEntry .prompt budgets "/" 1000 none hs hb
  have hlast : max (1000 : Rat) (Moment.after 1000 2) = 1002 := by decide +kernel
  exact ⟨hs, hb, hcut, hlast ▸ henforced.onTime.now, (henforced.cutShort rfl hcut).1⟩

end Guard

end Gatehouse
