import Gatehouse.Proofs.Deadline.Enforcement

/-! # Cancelled from outside

A request that is cancelled from outside is given up and not answered, whatever limits ring at the
same moment. All of them ask for the end of one piece of work, and each scope takes back only what
its own limit has asked for; so one request is left when the guarded block is left
(`requests_left_of_came`), and the guard does not take the cancellation for its own. -/

namespace Gatehouse.Guard

open Run

variable {reckoning : Reckoning} {sink : Receiver} {budget : Budget} {start : Rat} {i : Interrupt}
  {script : Script}

/-- The cancellation from outside has come before the handler was over. Nothing but a suspension of
the handler lets it in. -/
def Came (h : Run × Outcome) : Prop := h.1.interrupt = none

theorem coming_of_came {h : Run × Outcome} (hcame : Came h) : h.1.coming = 0 := by
  rw [coming, show h.1.interrupt = none from hcame]
  rfl

/-- The request from outside is left when the guard has taken its own back. -/
theorem requests_left_of_came (h : Came (handled reckoning sink budget start (some i) script)) :
    (handled reckoning sink budget start (some i) script).1.left.requests = 1 := by
  have hq := account_handled reckoning sink budget start (some i) script
  dsimp only at hq
  rw [coming_of_came h] at hq
  show (if (handled reckoning sink budget start (some i) script).1.expired then _ else _) = 1
  cases he : (handled reckoning sink budget start (some i) script).1.expired with
  | true =>
    rw [he, if_pos rfl, Option.toList_some, List.length_singleton] at hq
    rw [if_pos rfl]
    omega
  | false =>
    rw [he, if_neg Bool.false_ne_true, Option.toList_some, List.length_singleton] at hq
    rw [if_neg Bool.false_ne_true]
    omega

theorem cancelled_of_came (hs : script.LetsThrough)
    (h : Came (handled reckoning sink budget start (some i) script)) :
    ∃ m, (handled reckoning sink budget start (some i) script).2 = .error (.cancelled m) := by
  refine cancelled_of_interrupted hs (Nat.le_refl 0) ?_
  rw [coming_begin]
  exact (coming_of_came h).trans_lt Nat.one_pos

/-- **A cancellation from outside is never mistaken for the deadline.** A handler that neither
catches `CancelledError` nor cleans up, and that is cancelled from outside while it is suspended,
makes the guarded run end in `CancelledError`. The receiver is handed nothing but what the handler
has handed it, and nothing is logged. This holds for every deadline and every limit that the
handler sets itself, also for those that ring at the moment of the cancellation. -/
theorem outside_cancellation_prevails (reckoning : Reckoning) (sink : Receiver)
    (budgets : Budgets) (path : String) (start : Rat) (i : Interrupt) {script : Script}
    (hs : script.LetsThrough)
    (hcame : Came (handled reckoning sink (budgets.choose path) start (some i) script)) :
    let h := handled reckoning sink (budgets.choose path) start (some i) script
    let result := run reckoning sink (budgets.choose path) start (some i) script
    (∃ m, result.outcome = .error (.cancelled m)) ∧
      result.run.handed = h.1.handed ∧ result.run.sent = h.1.sent ∧ result.events = [] := by
  intro h result
  obtain ⟨m, hm⟩ := cancelled_of_came hs hcame
  have htranslated : h.1.translated h.2 = .error (.cancelled m) := by
    have hsettles := settles_handled reckoning sink (budgets.choose path) start (some i) script
    rw [show h.2 = _ from hm]
    refine hsettles.translated (fun _ => ?_) m
    rw [requests_left_of_came hcame]
    exact Nat.one_pos
  have hpunctual : isOverdue h.1 h.2 = false := by
    rw [isOverdue, htranslated]
    exact Bool.and_false _
  have hresult : result = ⟨h.1.left, .error (.cancelled m), []⟩ := by
    rw [← htranslated]
    exact (run_eq ..).trans (if_neg (ne_true_of_eq_false hpunctual))
  rw [hresult]
  exact ⟨⟨m, rfl⟩, rfl, rfl, rfl⟩

/-- The deadline, a limit of the handler and the cancellation from outside all at one moment, and a
handler that is ready for a timeout. -/
theorem cancelled_at_deadline :
    let script : Script := .attempt (.within (some 2) (.sleep 5 .done) .done) ["TimeoutError"]
      (fun _ => .sleep 3 (.mark "went on" .done)) .done .done
    let h := handled .sinceEntry .prompt (.whole 2) 1000 (some (.timer 1002)) script
    let result := run .sinceEntry .prompt (.whole 2) 1000 (some (.timer 1002)) script
    script.LetsThrough ∧ Came h ∧ h.1.expired = true ∧ h.1.now = 1002 ∧
      (∃ m, result.outcome = .error (.cancelled m)) ∧ result.run.handed = h.1.handed ∧
      result.events = [] := by
  intro script h result
  have hs : script.LetsThrough :=
    ⟨⟨trivial, trivial⟩, by decide, fun _ => trivial, rfl, trivial⟩
  have hcame : Came h := by
    show h.1.interrupt = none
    decide +kernel
  obtain ⟨hcancelled, hhanded, -, hevents⟩ :=
    outside_cancellation_prevails .sinceEntry .prompt ⟨.whole 2, .whole 2, .whole 2⟩ "/" 1000
      (.timer 1002) hs hcame
  exact ⟨hs, hcame, by decide +kernel, by decide +kernel, hcancelled, hhanded, hevents⟩

end Gatehouse.Guard
