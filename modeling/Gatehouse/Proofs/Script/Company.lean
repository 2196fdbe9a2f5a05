import Gatehouse.Proofs.Script.Progress

/-! # Runs in company

Other work may wake up while a run sleeps, carry it along, and cancel it in a turn of its own. A
run in such company is `Orderly` if all its moments are rounded and the turn in which it is to be
cancelled is not over yet. Such a run, too, only goes `Onward`: time does not go back, and until
it is cancelled all its turns come before the one in which it will be. -/

namespace Gatehouse

open Moment

theorem Waking.time_le_of_precedes {p q : Waking} (h : p.precedes q = true) : p.time ≤ q.time := by
  unfold Waking.precedes at h
  split at h
  · exact of_decide_eq_true h
  · exact le_of_lt (of_decide_eq_true h)
  · split at h
    · exact le_of_lt (of_decide_eq_true h)
    · exact le_of_eq (not_not.1 ‹_›)

namespace Run

/-- A run that others may carry along and cancel. -/
structure Orderly (r : Run) : Prop where
  now : nearest r.now = r.now
  visits : ∀ v ∈ r.visits, nearest v = v
  interrupt : ∀ i ∈ r.interrupt, ∃ w, i = .stop w ∧ nearest w.time = w.time ∧ r.now ≤ w.time
  alarms : Rounded r.alarms

/-- The second run is a later state of the first. -/
structure Onward (a b : Run) : Prop where
  orderly : Orderly b
  visits : b.visits = a.visits
  now : a.now ≤ b.now
  /-- Only once has it been cancelled is the cancellation no longer to come. -/
  interrupt : b.interrupt = a.interrupt ∨
    ∃ w, a.interrupt = some (.stop w) ∧ b.interrupt = none ∧ w.time ≤ b.now
  early : ∀ w, b.interrupt = some (.stop w) → b.waking = a.waking ∨ b.waking.precedes w = true

theorem Onward.refl {r : Run} (h : Orderly r) : Onward r r :=
  ⟨h, rfl, le_rfl, .inl rfl, fun _ _ => .inl rfl⟩

theorem Onward.trans {a b c : Run} (h₁ : Onward a b) (h₂ : Onward b c) : Onward a c where
  orderly := h₂.orderly
  visits := h₂.visits.trans h₁.visits
  now := h₁.now.trans h₂.now
  interrupt := by
    rcases h₂.interrupt with e₂ | ⟨w, e₂, e, ht⟩
    · rcases h₁.interrupt with e₁ | ⟨w, e₁, e, ht⟩
      · exact .inl (e₂.trans e₁)
      · exact .inr ⟨w, e₁, e₂.trans e, ht.trans h₂.now⟩
    · rcases h₁.interrupt with e₁ | ⟨_, _, e₁, _⟩
      · exact .inr ⟨w, e₁ ▸ e₂, e, ht⟩
      · rw [e₁] at e₂
        cases e₂
  early := by
    intro w hw
    rcases h₂.early w hw with e | hp
    · rw [e]
      refine h₁.early w ?_
      rcases h₂.interrupt with e₂ | ⟨_, _, e₂, _⟩
      · exact e₂ ▸ hw
      · rw [e₂] at hw
        cases hw
    · exact .inr hp

theorem Onward.of_eq {a b : Run} (h : Orderly a) (hw : b.waking = a.waking)
    (hv : b.visits = a.visits) (hi : b.interrupt = a.interrupt) (ha : Rounded b.alarms) :
    Onward a b := by
  have hn : b.now = a.now := congrArg Waking.time hw
  refine ⟨⟨hn ▸ h.now, hv ▸ h.visits, ?_, ha⟩, hv, hn.ge, .inl hi, fun _ _ => .inl hw⟩
  rw [hi, hn]
  exact h.interrupt

/-! ### Suspension -/

theorem Orderly.dues {r : Run} (h : Orderly r) : r.dues = r.alarms.filterMap Alarm.pending := by
  unfold Run.dues
  cases hi : r.interrupt with
  | none => rfl
  | some i =>
    obtain ⟨w, rfl, -⟩ := h.interrupt i (by simp [hi])
    rfl

theorem Orderly.interrupt_resume {r : Run} (h : Orderly r) (w : Waking) (isDue : Rat → Bool) :
    (resume w isDue r).1.interrupt = r.interrupt := by
  show (r.interrupt.filter _).map _ = r.interrupt
  cases hi : r.interrupt with
  | none => rfl
  | some i =>
    obtain ⟨w, rfl, -⟩ := h.interrupt i hi
    rfl

theorem onward_resume {r : Run} (h : Orderly r) {w : Waking} (isDue : Rat → Bool)
    (hw : nearest w.time = w.time) (hnow : r.now ≤ w.time)
    (hstop : ∀ stop, r.interrupt = some (.stop stop) → w.precedes stop = true) :
    Onward r (resume w isDue r).1 := by
  have hi := h.interrupt_resume w isDue
  refine ⟨⟨hw, h.visits, ?_, Rounded.hastened hw (Rounded.ring h.alarms isDue)⟩, rfl, hnow,
    .inl hi, ?_⟩
  · intro i hmem
    rw [hi] at hmem
    obtain ⟨stop, rfl, hr, -⟩ := h.interrupt i hmem
    exact ⟨stop, rfl, hr, Waking.time_le_of_precedes (hstop stop hmem)⟩
  · intro stop hs
    exact .inr (hstop stop (hi ▸ hs))

theorem onward_stopped {r : Run} (h : Orderly r) {stop : Waking}
    (hs : r.interrupt = some (.stop stop)) : Onward r (stopped stop r).1 := by
  obtain ⟨w, e, hr, hnow⟩ := h.interrupt _ hs
  obtain rfl : stop = w := by injection e
  have ht : (stopped stop r).1.now = stop.time := Waking.time_next stop
  have hr' : nearest (stopped stop r).1.now = (stopped stop r).1.now := by rwa [ht]
  refine ⟨⟨hr', h.visits, ?_, ?_⟩, rfl, ht ▸ hnow, .inr ⟨stop, hs, rfl, ht.ge⟩, ?_⟩
  · intro i hi
    cases hi
  · exact Rounded.hastened hr' (Rounded.ring h.alarms _)
  · intro w hw
    cases hw

/-- A sleep ends in its turn if this comes before the cancellation, and in the cancellation if
not. -/
theorem suspend_cases (seconds : Rat) {r : Run} (h : Orderly r) :
    (suspend seconds r = resume (turnAfter seconds r).1 (turnAfter seconds r).2 r ∧
      ∀ stop, r.interrupt = some (.stop stop) →
        (turnAfter seconds r).1.precedes stop = true) ∨
    ∃ stop, r.interrupt = some (.stop stop) ∧ suspend seconds r = stopped stop r := by
  cases hi : r.interrupt with
  | none =>
    left
    refine ⟨suspend_of_unstopped seconds (by simp [hi]), ?_⟩
    intro stop hs
    cases hs
  | some i =>
    obtain ⟨w, rfl, -⟩ := h.interrupt i hi
    have e : suspend seconds r =
        if (turnAfter seconds r).1.precedes w then
          resume (turnAfter seconds r).1 (turnAfter seconds r).2 r
        else stopped w r := by
      simp only [suspend, hi, Option.bind_some, Interrupt.stop?]
    split at e
    · left
      refine ⟨e, ?_⟩
      rintro _ ⟨rfl⟩
      assumption
    · exact .inr ⟨w, rfl, e⟩

theorem onward_suspend (seconds : Rat) {r : Run} (h : Orderly r) :
    Onward r (suspend seconds r).1 := by
  rcases suspend_cases seconds h with ⟨e, hstop⟩ | ⟨stop, hi, e⟩ <;> rw [e]
  · obtain ⟨hw, hnow⟩ := turnAfter_onward seconds h.now h.visits (h.dues ▸ h.alarms.pending)
    exact onward_resume h _ hw hnow hstop
  · exact onward_stopped h hi

/-! ### Scripts -/

theorem onward_finish (sink : Receiver) (call : Nat) (m : Message) {r : Run} (h : Orderly r) :
    Onward r (finish sink call m r).1 := by
  obtain ⟨sent, e, -⟩ := finish_frame sink call m r
  rw [e]
  exact .of_eq h rfl rfl rfl h.alarms

theorem onward_wait (sink : Receiver) {r : Run} (h : Orderly r) : Onward r (wait sink r).1 := by
  unfold wait
  cases sink.delay with
  | none => exact .refl h
  | some seconds => exact onward_suspend seconds h

theorem onward_send (sink : Receiver) (m : Message) {r : Run} (h : Orderly r) :
    Onward r (send sink m r).1 := by
  let handed := r.handed ++ [⟨r.now, m⟩]
  have h₀ : Onward r { r with handed } := .of_eq h rfl rfl rfl h.alarms
  have h₁ := h₀.trans (onward_wait sink h₀.orderly)
  unfold send Work.andThen
  dsimp only
  split <;> rename_i e <;> rw [e] at h₁
  · exact h₁.trans (onward_finish sink handed.length m h₁.orderly)
  · exact h₁

theorem onward_noteAndSend (sink : Receiver) (m : Message) {r : Run} (h : Orderly r) :
    Onward r (noteAndSend sink m r).1 := by
  obtain e | ⟨_, e⟩ := note_cases m r
  · rw [noteAndSend, Work.andThen_of_ok e]
    have h₀ : Onward r { r with status := m.status?.getD r.status } := .of_eq h rfl rfl rfl h.alarms
    exact h₀.trans (onward_send sink m h₀.orderly)
  · rw [noteAndSend, Work.andThen_of_error e]
    exact .refl h

theorem onward_steps (sink : Receiver) :
    Stepwise (fun a b => Orderly a → Onward a b) (noteAndSend sink) where
  refl _ h := .refl h
  trans h₁ h₂ h := (h₁ h).trans (h₂ (h₁ h).orderly)
  suspend seconds _ h := onward_suspend seconds h
  give m _ h := onward_noteAndSend sink m h
  mark _ _ h := .of_eq h rfl rfl rfl h.alarms
  scope limit w hw r h := by
    have hin : Onward r (r.enter limit) := .of_eq h rfl rfl rfl (h.alarms.enter limit)
    have hwork := hin.trans (hw (r.enter limit) hin.orderly)
    exact hwork.trans (.of_eq hwork.orderly rfl rfl rfl hwork.orderly.alarms.left)

theorem onward_exec (sink : Receiver) (script : Script) {r : Run} (h : Orderly r) :
    Onward r (exec sink script r).1 :=
  (onward_steps sink).execWith script r h

end Run

end Gatehouse
