import Gatehouse.Deadline.Guard
import Gatehouse.Proofs.Script.Steps

/-! # When the guard answers

A guarded run is the run of the handler, `handled`, and then at most the guard's own answer. The
guard answers if and only if the handler has left the request `Unanswered`: the deadline has
passed when the guarded block is left, the block ends normally or by a timeout, and the last
response start that the handler tried, if any, had a status that counts for nothing.

`isOverdue_iff` reads the guard's test off the one alarm that is left, `answer_spec` says what the
receiver gets to see of an answer, and `guard_answers_once` puts the two together for every
script, receiver and timing. -/

namespace Gatehouse.Guard

open Run

/-- The run of the handler and its outcome, at the moment at which the guarded block is left. -/
def handled (reckoning : Reckoning) (sink : Receiver) (budget : Budget) (start : Rat)
    (interrupt : Option Interrupt) (script : Script) : Run × Outcome :=
  exec sink script ((Run.begin reckoning (.first start) [] interrupt).enter budget.limit?)

/-- The guard's alarm, the only one that is still set, has rung, and the guarded block is left
normally or by a timeout. -/
structure Overdue (h : Run × Outcome) : Prop where
  expired : ∃ a, h.1.alarms = [a] ∧ a.rung = true
  ended : (h.1.leave h.2).2 = .ok () ∨ ∃ m, (h.1.leave h.2).2 = .error (.timeout m)

structure Unanswered (h : Run × Outcome) : Prop extends Overdue h where
  status : ∀ status ∈ lastStatus? h.1.handed, status.truthy = false

/-! ### The guarded block -/

theorem run_eq (reckoning : Reckoning) (sink : Receiver) (budget : Budget) (start : Rat)
    (interrupt : Option Interrupt) (script : Script) :
    run reckoning sink budget start interrupt script =
      let h := handled reckoning sink budget start interrupt script
      if isOverdue h.1 h.2 then conclude sink budget h.1.left
      else ⟨h.1.left, (h.1.leave h.2).2, []⟩ := rfl

theorem length_alarms_handled (reckoning : Reckoning) (sink : Receiver) (budget : Budget)
    (start : Rat) (interrupt : Option Interrupt) (script : Script) :
    (handled reckoning sink budget start interrupt script).1.alarms.length = 1 := by
  unfold handled
  rw [length_alarms_exec]
  rfl

theorem noted_handled (reckoning : Reckoning) (sink : Receiver) (budget : Budget) (start : Rat)
    (interrupt : Option Interrupt) (script : Script) :
    Noted (handled reckoning sink budget start interrupt script).1 :=
  noted_exec sink script rfl

theorem expired_iff {r : Run} (h : r.alarms.length = 1) :
    r.expired = true ↔ ∃ a, r.alarms = [a] ∧ a.rung = true := by
  obtain ⟨a, ha⟩ := List.length_eq_one_iff.1 h
  simp [expired, ha]

theorem isAnswerable_iff {out : Outcome} :
    isAnswerable out = true ↔ out = .ok () ∨ ∃ m, out = .error (.timeout m) := by
  cases out with
  | ok => simp [isAnswerable]
  | error f => cases f <;> simp [isAnswerable, Failure.isTimeout]

theorem isOverdue_iff {h : Run × Outcome} (hl : h.1.alarms.length = 1) :
    isOverdue h.1 h.2 = true ↔ Overdue h := by
  unfold isOverdue
  rw [Bool.and_eq_true, expired_iff hl, isAnswerable_iff]
  exact ⟨fun ⟨h₁, h₂⟩ => ⟨h₁, h₂⟩, fun ⟨h₁, h₂⟩ => ⟨h₁, h₂⟩⟩

/-! ### The answer -/

/-- The receiver is handed the start of the answer, and its body once the start is delivered. -/
theorem answer_spec (sink : Receiver) (r : Run) :
    ∃ own delivered, (answer sink r).1.handed = r.handed ++ own ∧
      (answer sink r).1.sent = r.sent ++ delivered ∧
      own.map Sent.message <+: [answerStart, answerBody] ∧
      answerStart ∈ own.map Sent.message ∧
      (answerBody ∈ own.map Sent.message ↔ answerStart ∈ delivered.map Sent.message) := by
  have e := handed_send sink answerStart r
  have ho := sent_send sink answerStart r
  cases hs : send sink answerStart r with
  | mk s out =>
    rw [hs] at e ho
    dsimp only at e ho
    obtain ⟨rfl, hd⟩ | ⟨⟨f, rfl⟩, hd⟩ := ho
    · have ha : answer sink r = send sink answerBody s := Work.andThen_of_ok hs
      rw [ha, handed_send, e]
      obtain ⟨_, hd'⟩ | ⟨_, hd'⟩ := sent_send sink answerBody s
      · exact ⟨[⟨_, answerStart⟩, ⟨_, answerBody⟩], [⟨_, answerStart⟩, ⟨_, answerBody⟩],
          List.append_assoc .., by rw [hd', hd, List.append_assoc]; rfl, by simp, by simp,
          by simp⟩
      · exact ⟨[⟨_, answerStart⟩, ⟨_, answerBody⟩], [⟨_, answerStart⟩],
          List.append_assoc .., by rw [hd', hd], by simp, by simp, by simp⟩
    · have ha : answer sink r = (s, .error f) := Work.andThen_of_error hs
      rw [ha]
      exact ⟨[⟨_, answerStart⟩], [], e, by simp [hd], by simp, by simp,
        by simp [answerStart, answerBody]⟩

theorem length_starts_own {own : List Sent}
    (h : own.map Sent.message <+: [answerStart, answerBody]) : (starts own).length ≤ 1 := by
  have e : starts own = (own.map Sent.message).filterMap Message.status? := by
    rw [List.filterMap_map]
    rfl
  rw [e]
  exact (h.sublist.filterMap Message.status?).length_le

/-! ### The whole run -/

theorem conclude_run (sink : Receiver) (budget : Budget) (r : Run) :
    (conclude sink budget r).run = if r.status.truthy then r else (answer sink r).1 := by
  unfold conclude
  split <;> rfl

theorem unanswered_iff {h : Run × Outcome} (hl : h.1.alarms.length = 1) (hn : Noted h.1) :
    Unanswered h ↔ isOverdue h.1 h.2 = true ∧ h.1.status.truthy = false := by
  have hs : (∀ status ∈ lastStatus? h.1.handed, status.truthy = false) ↔
      h.1.status.truthy = false := by
    rw [hn]
    cases lastStatus? h.1.handed <;> simp [Json.truthy]
  rw [isOverdue_iff hl, ← hs]
  exact ⟨fun hu => ⟨hu.toOverdue, hu.status⟩, fun ⟨ho, hs⟩ => ⟨ho, hs⟩⟩

/-- What the guard adds to the run of the handler. -/
theorem run_spec (reckoning : Reckoning) (sink : Receiver) (budget : Budget) (start : Rat)
    (interrupt : Option Interrupt) (script : Script) :
    let h := handled reckoning sink budget start interrupt script
    let result := run reckoning sink budget start interrupt script
    ∃ own delivered,
      result.run.handed = h.1.handed ++ own ∧ result.run.sent = h.1.sent ++ delivered ∧
      own.map Sent.message <+: [answerStart, answerBody] ∧
      (answerStart ∈ own.map Sent.message ↔ Unanswered h) ∧
      (answerBody ∈ own.map Sent.message ↔ answerStart ∈ delivered.map Sent.message) := by
  intro h result
  have hu : Unanswered h ↔ isOverdue h.1 h.2 = true ∧ h.1.status.truthy = false :=
    unanswered_iff (length_alarms_handled ..) (noted_handled ..)
  have e : result = if isOverdue h.1 h.2 then conclude sink budget h.1.left
      else ⟨h.1.left, (h.1.leave h.2).2, []⟩ := run_eq ..
  by_cases answered : isOverdue h.1 h.2 = true ∧ h.1.status.truthy = false
  · obtain ⟨own, delivered, h₁, h₂, h₃, h₄, h₅⟩ := answer_spec sink h.1.left
    have er : result.run = (answer sink h.1.left).1 := by
      rw [e, if_pos answered.1, conclude_run, if_neg]
      exact Bool.eq_false_iff.1 answered.2
    rw [er]
    exact ⟨own, delivered, h₁, h₂, h₃, by simp [h₄, hu, answered], h₅⟩
  · have er : result.run = h.1.left := by
      rw [e]
      by_cases ho : isOverdue h.1 h.2 = true
      · rw [if_pos ho, conclude_run, if_pos]
        exact Bool.of_not_eq_false fun hs => answered ⟨ho, hs⟩
      · rw [if_neg ho]
    rw [er]
    exact ⟨[], [], by simp [left], by simp [left], by simp, by simp [hu, answered], by simp⟩

theorem marks_answer (sink : Receiver) (r : Run) : (answer sink r).1.marks = r.marks := by
  have hmarks := marks_send sink answerStart r
  cases hs : send sink answerStart r with
  | mk s out =>
    rw [hs] at hmarks
    cases out with
    | error f =>
      rw [answer, Work.andThen_of_error hs]
      exact hmarks
    | ok =>
      rw [answer, Work.andThen_of_ok hs, marks_send]
      exact hmarks

theorem marks_run (reckoning : Reckoning) (sink : Receiver) (budget : Budget) (start : Rat)
    (interrupt : Option Interrupt) (script : Script) :
    (run reckoning sink budget start interrupt script).run.marks =
      (handled reckoning sink budget start interrupt script).1.marks := by
  rw [run_eq]
  dsimp only
  split
  · rw [conclude_run]
    split
    · rfl
    · exact marks_answer sink _
  · rfl

/-- **The guard answers at most once, and exactly when it should.** What it hands over itself comes
after every message of the handler; it is the start of its answer if the handler has left the
request unanswered and nothing if not, and the body follows if and only if the start has been
delivered. A handler that starts at most one response, with a status that counts, makes it at
most one response start altogether. -/
theorem guard_answers_once (reckoning : Reckoning) (sink : Receiver) (budgets : Budgets)
    (path : String) (start : Rat) (interrupt : Option Interrupt) (script : Script) :
    let budget := budgets.choose path
    let h := handled reckoning sink budget start interrupt script
    let result := run reckoning sink budget start interrupt script
    ∃ own delivered,
      result.run.handed = h.1.handed ++ own ∧ result.run.sent = h.1.sent ++ delivered ∧
      own.map Sent.message <+: [answerStart, answerBody] ∧
      (answerStart ∈ own.map Sent.message ↔ Unanswered h) ∧
      (answerBody ∈ own.map Sent.message ↔ answerStart ∈ delivered.map Sent.message) ∧
      ((starts h.1.handed).length ≤ 1 → (∀ status ∈ starts h.1.handed, status.truthy) →
        (starts result.run.handed).length ≤ 1) := by
  intro budget h result
  obtain ⟨own, delivered, h₁, h₂, h₃, h₄, h₅⟩ :=
    run_spec reckoning sink budget start interrupt script
  refine ⟨own, delivered, h₁, h₂, h₃, h₄, h₅, fun hone hcounts => ?_⟩
  rw [h₁, starts_append, List.length_append]
  by_cases hu : Unanswered h
  · have unstarted : starts h.1.handed = [] := by
      cases hs : lastStatus? h.1.handed with
      | none => exact List.getLast?_eq_none_iff.1 hs
      | some status =>
        have := hcounts status (List.mem_of_getLast? hs)
        rw [hu.status status hs] at this
        cases this
    have := length_starts_own h₃
    show (starts h.1.handed).length + (starts own).length ≤ 1
    rw [unstarted]
    simpa using this
  · have nothing : own = [] := by
      have hs : answerStart ∉ own.map Sent.message := fun hm => hu (h₄.1 hm)
      cases own with
      | nil => rfl
      | cons s rest =>
        obtain ⟨tail, ht⟩ := h₃
        simp only [List.map_cons, List.cons_append, List.cons.injEq] at ht
        exact absurd (by simp [ht.1]) hs
    rw [nothing]
    exact hone

/-- A handler that has started its response and then sleeps past the deadline. -/
theorem no_second_start_after_deadline :
    let late : Script := .send (.start (some (.int 200)) []) (.sleep 5 .done)
    let h := handled .sinceEntry .prompt (.whole 2) 1000 none late
    (starts h.1.handed).length ≤ 1 ∧ (∀ status ∈ starts h.1.handed, status.truthy) ∧
      (starts (run .sinceEntry .prompt (.whole 2) 1000 none late).run.handed).length ≤ 1 := by
  intro late h
  have hone : (starts h.1.handed).length ≤ 1 := by decide +kernel
  have hcounts : ∀ status ∈ starts h.1.handed, status.truthy := by decide +kernel
  obtain ⟨_, _, _, _, _, _, _, hrun⟩ :=
    guard_answers_once .sinceEntry .prompt ⟨.whole 2, .whole 2, .whole 2⟩ "/page" 1000 none late
  exact ⟨hone, hcounts, hrun hone hcounts⟩

end Gatehouse.Guard
