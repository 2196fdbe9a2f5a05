import Mathlib.Data.List.Basic
import Gatehouse.Proofs.Deadline.Answer

/-! # Starts that get lost

When a request has expired and the guard returns normally, the caller has got a response start:
the handler's, or the guard's own. There is one exception. The status of a start is noted before
the receiver is called, so if that call fails, or the deadline cuts it off, the start is noted
although nobody has got it. If this is the last start that the handler tries, and none before it was
delivered, then it is `Lost`: the guard takes the request for answered and nobody has got anything.

Main statement: such a request is left without an answer if and only if its start is lost, and a
receiver that takes every message at once loses none (`answered_unless_lost`). -/

namespace Gatehouse

namespace Run

/-! ### Receivers that take every message at once -/

/-- Whatever was handed over has been delivered, and nothing else. -/
def Complete (r : Run) : Prop := r.sent = r.handed

theorem complete_noteAndSend (m : Message) {r : Run} (h : Complete r) :
    Complete (noteAndSend .prompt m r).1 := by
  obtain e | ⟨_, e⟩ := note_cases m r
  · rw [noteAndSend, Work.andThen_of_ok e]
    exact congrArg (· ++ [⟨r.now, m⟩]) h
  · rw [noteAndSend, Work.andThen_of_error e]
    exact h

theorem complete_steps :
    Stepwise (fun a b => Complete a → Complete b) (noteAndSend .prompt) where
  refl _ h := h
  trans h₁ h₂ h := h₂ (h₁ h)
  suspend seconds r h := by
    obtain ⟨_, _, _, _, _, e⟩ := suspend_frame seconds r
    rw [e]
    exact h
  give m _ h := complete_noteAndSend m h
  mark _ _ h := h
  scope limit _ hw r h := hw (r.enter limit) h

theorem complete_exec (script : Script) {r : Run} (h : Complete r) :
    Complete (exec .prompt script r).1 :=
  complete_steps.execWith script r h

end Run

namespace Guard

open Run

/-- The handler has tried a response start with a status that counts, and no start of it has been
delivered. -/
structure Lost (h : Run × Outcome) : Prop where
  noted : ∃ status ∈ lastStatus? h.1.handed, status.truthy = true
  undelivered : starts h.1.sent = []

theorem not_lost_of_prompt (reckoning : Reckoning) (budget : Budget) (start : Rat)
    (interrupt : Option Interrupt) (script : Script) :
    ¬Lost (handled reckoning .prompt budget start interrupt script) := by
  rintro ⟨⟨status, hstatus, -⟩, hundelivered⟩
  have hcomplete : Complete (handled reckoning .prompt budget start interrupt script).1 :=
    complete_exec script rfl
  rw [lastStatus?, ← show Run.sent _ = Run.handed _ from hcomplete, hundelivered] at hstatus
  cases hstatus

theorem truthy_status_iff {r : Run} (h : Noted r) :
    r.status.truthy = true ↔ ∃ status ∈ lastStatus? r.handed, status.truthy = true := by
  rw [h]
  cases lastStatus? r.handed <;> simp [Json.truthy]

/-- An answer that does not fail has been delivered. -/
theorem starts_answer {sink : Receiver} {r : Run} (hok : (answer sink r).2 = .ok ()) :
    starts (answer sink r).1.sent ≠ [] := by
  have hstart := sent_send sink answerStart r
  cases hs : send sink answerStart r with
  | mk s out =>
    rw [hs] at hstart
    obtain ⟨rfl, hsent⟩ | ⟨⟨f, rfl⟩, -⟩ := hstart
    · have ha : answer sink r = send sink answerBody s := Work.andThen_of_ok hs
      have hlater : s.sent <+: (answer sink r).1.sent := by
        rw [ha]
        obtain ⟨-, hbody⟩ | ⟨-, hbody⟩ := sent_send sink answerBody s
        · rw [hbody]
          exact List.prefix_append ..
        · exact hbody ▸ List.prefix_rfl
      have hmem : Json.int 504 ∈ starts (answer sink r).1.sent := by
        refine List.mem_filterMap.2 ⟨⟨s.now, answerStart⟩, hlater.subset ?_, rfl⟩
        rw [hsent]
        exact List.mem_append_right _ (List.mem_singleton_self _)
      exact List.ne_nil_of_mem hmem
    · rw [answer, Work.andThen_of_error hs] at hok
      cases hok

section

variable {reckoning : Reckoning} {sink : Receiver} {budget : Budget} {start : Rat}
  {interrupt : Option Interrupt} {script : Script}

/-- An expired request on which the guard returns normally is overdue. -/
theorem isOverdue_of_ok
    (he : (handled reckoning sink budget start interrupt script).1.expired = true)
    (hok : (run reckoning sink budget start interrupt script).outcome = .ok ()) :
    isOverdue (handled reckoning sink budget start interrupt script).1
      (handled reckoning sink budget start interrupt script).2 = true := by
  by_contra hpunctual
  have htranslated : (handled reckoning sink budget start interrupt script).1.translated
      (handled reckoning sink budget start interrupt script).2 = .ok () := by
    rw [run_eq] at hok
    dsimp only at hok
    rwa [if_neg hpunctual] at hok
  rw [isOverdue, he, htranslated] at hpunctual
  exact hpunctual rfl

end

/-- **An expired request is answered unless its start is lost.** For every deadline, handler,
receiver and cancellation from outside: if the deadline has expired and the guard returns normally,
then a response start has been delivered if and only if the handler has not lost one. -/
theorem answered_unless_lost (reckoning : Reckoning) (sink : Receiver) (budgets : Budgets)
    (path : String) (start : Rat) (interrupt : Option Interrupt) (script : Script)
    (he : (handled reckoning sink (budgets.choose path) start interrupt script).1.expired = true)
    (hok : (run reckoning sink (budgets.choose path) start interrupt script).outcome = .ok ()) :
    let h := handled reckoning sink (budgets.choose path) start interrupt script
    let result := run reckoning sink (budgets.choose path) start interrupt script
    (starts result.run.sent ≠ [] ↔ ¬Lost h) ∧ (sink = .prompt → ¬Lost h) := by
  intro h result
  have hoverdue : isOverdue h.1 h.2 = true := isOverdue_of_ok he hok
  have hcounts : h.1.status.truthy = true ↔
      ∃ status ∈ lastStatus? h.1.handed, status.truthy = true :=
    truthy_status_iff (noted_handled ..)
  have hresult : result = conclude sink (budgets.choose path) h.1.left :=
    (run_eq ..).trans (if_pos hoverdue)
  have hok' : (conclude sink (budgets.choose path) h.1.left).outcome = .ok () := hresult ▸ hok
  constructor
  case right =>
    rintro rfl
    exact not_lost_of_prompt _ _ start interrupt script
  rw [hresult, conclude_run]
  by_cases hs : h.1.left.status.truthy = true
  · -- taken for answered: the handler's own starts are all that there is
    rw [if_pos hs]
    exact ⟨fun hsent hlost => hsent hlost.undelivered,
      fun hkept hnone => hkept ⟨hcounts.1 hs, hnone⟩⟩
  · rw [if_neg hs]
    have hanswer : (answer sink h.1.left).2 = .ok () := by
      rw [conclude, if_neg hs] at hok'
      exact hok'
    exact iff_of_true (starts_answer hanswer) fun hlost => hs (hcounts.2 hlost.noted)

/-- A start whose first call fails and whose second takes a while, and a handler that then sleeps
past the deadline. -/
theorem second_try_delivered :
    let sink : Receiver := ⟨[1], some 1⟩
    let script : Script := .attempt (.send (.start (some (.int 200)) []) .done) ["OSError"]
      (fun _ => .send (.start (some (.int 503)) []) .done) .done (.sleep 5 .done)
    let h := handled .sinceEntry sink (.whole 3) 1000 none script
    let result := run .sinceEntry sink (.whole 3) 1000 none script
    h.1.expired = true ∧ result.outcome = .ok () ∧ ¬Lost h ∧ starts result.run.sent ≠ [] := by
  intro sink script h result
  have he : h.1.expired = true := by decide +kernel
  have hok : result.outcome = .ok () := by decide +kernel
  have hkept : ¬Lost h := by
    intro hlost
    have hnone : (starts h.1.sent).length = 0 := List.length_eq_zero_iff.2 hlost.undelivered
    have hone : (starts h.1.sent).length = 1 := by decide +kernel
    omega
  have hanswered := answered_unless_lost .sinceEntry sink ⟨.whole 3, .whole 3, .whole 3⟩ "/page"
    1000 none script he hok
  exact ⟨he, hok, hkept, hanswered.1.2 hkept⟩

/-- A request may expire and nobody gets an answer: the deadline cuts off the delivery of the start,
or the delivery fails and the handler goes on. -/
theorem expired_without_answer :
    (let sink : Receiver := ⟨[], some 5⟩
      let script : Script := .send (.start (some (.int 200)) []) .done
      (handled .sinceEntry sink (.whole 1) 1000 none script).1.expired = true ∧
        (run .sinceEntry sink (.whole 1) 1000 none script).outcome = .ok () ∧
        starts (run .sinceEntry sink (.whole 1) 1000 none script).run.sent = []) ∧
    (let sink : Receiver := ⟨[1], none⟩
      let script : Script := .attempt (.send (.start (some (.int 200)) []) .done) ["OSError"]
        (fun _ => .done) .done (.sleep 5 .done)
      (handled .sinceEntry sink (.whole 1) 1000 none script).1.expired = true ∧
        (run .sinceEntry sink (.whole 1) 1000 none script).outcome = .ok () ∧
        starts (run .sinceEntry sink (.whole 1) 1000 none script).run.sent = []) := by
  refine ⟨⟨?_, ?_, ?_⟩, ⟨?_, ?_, ?_⟩⟩
  case refine_3 => exact List.length_eq_zero_iff.1 (by decide +kernel)
  case refine_6 => exact List.length_eq_zero_iff.1 (by decide +kernel)
  all_goals decide +kernel

end Guard

end Gatehouse
