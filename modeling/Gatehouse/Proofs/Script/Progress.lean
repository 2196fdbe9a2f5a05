import Gatehouse.Proofs.Number.Rounding
import Gatehouse.Proofs.Script.Steps

/-! # Time goes on

A run is `Timely` if it has no company: it is cancelled by a timer, if at all, and all its moments
are rounded. Such a run never goes back in time, never returns to its first turn, and never takes
back a message; `later_steps` says so of each kind of step, `later_execWith` of whole scripts. -/

namespace Gatehouse

open Moment

/-! ### Turns -/

namespace Waking

theorem time_next (w : Waking) : w.next.time = w.time := by
  cases w <;> rfl

theorem next_ne_first (w : Waking) (t : Rat) : w.next ≠ .first t := by
  cases w <;> simp [next]

end Waking

namespace Run

theorem earliest_concat (t u : Rat) (l : List Rat) :
    earliest t (l ++ [u]) = if u < earliest t l then u else earliest t l := by
  unfold earliest
  rw [List.foldl_append]
  rfl

theorem earliest_mem (t : Rat) (l : List Rat) : earliest t l = t ∨ earliest t l ∈ l := by
  induction l using List.reverseRecOn with
  | nil => exact .inl rfl
  | append_singleton l u ih =>
    rw [earliest_concat]
    split
    · simp
    · rcases ih with h | h
      · exact .inl h
      · exact .inr (by simp [h])

/-! ### Rounded alarms -/

/-- The limits are rounded moments. -/
def Rounded (alarms : List Alarm) : Prop := ∀ a ∈ alarms, ∀ due ∈ a.due, nearest due = due

theorem Rounded.pending {alarms : List Alarm} (h : Rounded alarms) :
    ∀ t ∈ alarms.filterMap Alarm.pending, nearest t = t := by
  intro t ht
  rw [List.mem_filterMap] at ht
  obtain ⟨a, ha, ht⟩ := ht
  refine h a ha t ?_
  unfold Alarm.pending at ht
  split at ht
  · cases ht
  · exact ht

theorem Rounded.ring {alarms : List Alarm} (h : Rounded alarms) (isDue : Rat → Bool) :
    Rounded (alarms.map (Alarm.ring isDue)) := by
  intro a ha due hd
  obtain ⟨a', ha', rfl⟩ := List.mem_map.1 ha
  refine h a' ha' due ?_
  unfold Alarm.ring at hd
  split at hd <;> exact hd

theorem Rounded.hastened {r : Run} (hnow : nearest r.now = r.now) (h : Rounded r.alarms) :
    Rounded r.hastened.alarms := by
  intro a ha due hd
  obtain ⟨a', ha', rfl⟩ := List.mem_map.1 ha
  obtain ⟨due', hd', rfl⟩ := Option.map_eq_some_iff.1 hd
  split
  · exact hnow
  · exact h a' ha' due' hd'

theorem Rounded.enter {r : Run} (h : Rounded r.alarms) (limit : Option Rat) :
    Rounded (r.enter limit).alarms := by
  intro a ha due hd
  rcases List.mem_cons.1 ha with rfl | ha
  · obtain ⟨t, _, rfl⟩ := Option.map_eq_some_iff.1 hd
    exact nearest_after ..
  · exact h a ha due hd

theorem Rounded.left {r : Run} (h : Rounded r.alarms) : Rounded r.left.alarms :=
  fun a ha => h a (List.mem_of_mem_tail ha)

/-! ### Timely runs -/

/-- A run without company, all of whose moments are rounded. -/
structure Timely (r : Run) : Prop where
  alone : r.visits = []
  now : nearest r.now = r.now
  interrupt : ∀ i ∈ r.interrupt, ∃ due, i = .timer due ∧ nearest due = due
  alarms : ∀ a ∈ r.alarms, ∀ due ∈ a.due, nearest due = due

theorem Timely.dues {r : Run} (h : Timely r) : ∀ t ∈ r.dues, nearest t = t := by
  intro t ht
  unfold Run.dues at ht
  rw [List.mem_append] at ht
  rcases ht with ht | ht
  · cases hi : r.interrupt with
    | none => simp [hi] at ht
    | some i =>
      obtain ⟨due, rfl, hd⟩ := h.interrupt i (by simp [hi])
      obtain rfl : t = due := by simpa [hi, Interrupt.due?] using ht
      exact hd
  · exact Rounded.pending h.alarms t ht

theorem Timely.hastened {r : Run} (h : Timely r) : Timely r.hastened where
  alone := h.alone
  now := h.now
  interrupt i hi := by
    obtain ⟨i', hi', rfl⟩ := Option.map_eq_some_iff.1 hi
    obtain ⟨due, rfl, hd⟩ := h.interrupt i' hi'
    refine ⟨_, rfl, ?_⟩
    dsimp only
    split
    · exact h.now
    · exact hd
  alarms := Rounded.hastened h.now h.alarms

theorem Timely.resume {r : Run} (h : Timely r) {w : Waking} (hw : nearest w.time = w.time)
    (isDue : Rat → Bool) : Timely (resume w isDue r).1 := by
  refine Timely.hastened ⟨h.alone, hw, fun i hi => ?_, Rounded.ring h.alarms isDue⟩
  exact h.interrupt i (Option.mem_filter_iff.1 hi).1

/-! ### Suspension -/

section

variable {seconds : Rat} {r : Run}

theorem turnAfter_of_nonpos (hs : seconds ≤ 0) :
    turnAfter seconds r = (r.waking.next, fun t => decide (t ≤ r.now)) := by
  simp only [turnAfter, hs, if_true]

theorem turnAfter_of_due (hs : ¬seconds ≤ 0) (hd : (r.dues.any fun t => t ≤ r.now) = true) :
    turnAfter seconds r = (r.waking.next.next, fun t => decide (t < soon r.now)) := by
  simp only [turnAfter, hs, hd, if_true, if_false]

theorem turnAfter_of_alone (hs : ¬seconds ≤ 0) (hd : ¬(r.dues.any fun t => t ≤ r.now) = true)
    (hv : r.visits = []) :
    let timer := earliest (after r.now seconds) r.dues
    turnAfter seconds r = (.timer timer timer r.waking, fun t => decide (t < soon timer)) := by
  simp only [turnAfter, hs, hd, if_false, hv]
  rfl

end

/-- Others carry a timer along to a moment of theirs, if they do. -/
theorem carried_cases (due now : Rat) (visits : List Rat) :
    Waking.carried due now visits = due ∨
      Waking.carried due now visits ∈ visits ∧ now < Waking.carried due now visits := by
  unfold Waking.carried
  cases h : visits.find? fun v => now < v && v < due && due < soon v with
  | none => exact .inl rfl
  | some v =>
    have hv := List.find?_some h
    simp only [Bool.and_eq_true, decide_eq_true_eq] at hv
    exact .inr ⟨List.mem_of_find?_eq_some h, hv.1.1⟩

/-- Whoever else wakes up, the turn after a sleep is at a rounded moment from now on. -/
theorem turnAfter_onward (seconds : Rat) {r : Run} (hnow : nearest r.now = r.now)
    (hvisits : ∀ v ∈ r.visits, nearest v = v) (hdues : ∀ t ∈ r.dues, nearest t = t) :
    nearest (turnAfter seconds r).1.time = (turnAfter seconds r).1.time ∧
      r.now ≤ (turnAfter seconds r).1.time := by
  by_cases hs : seconds ≤ 0
  · rw [turnAfter_of_nonpos hs, Waking.time_next]
    exact ⟨hnow, le_rfl⟩
  by_cases hd : (r.dues.any fun t => t ≤ r.now) = true
  · rw [turnAfter_of_due hs hd, Waking.time_next, Waking.time_next]
    exact ⟨hnow, le_rfl⟩
  have later : ∀ t ∈ r.dues, r.now ≤ t := by
    intro t ht
    by_contra hlt
    exact hd (List.any_eq_true.2 ⟨t, ht, decide_eq_true (le_of_not_ge hlt)⟩)
  let timer := earliest (after r.now seconds) r.dues
  have hturn : (turnAfter seconds r).1 =
      .timer (Waking.carried timer r.now r.visits) timer r.waking := by
    simp only [turnAfter, hs, hd, if_false]
    rfl
  rw [hturn]
  show nearest (Waking.carried timer r.now r.visits) = _ ∧
    r.now ≤ Waking.carried timer r.now r.visits
  rcases carried_cases timer r.now r.visits with hc | ⟨hc, hlt⟩
  · rw [hc]
    rcases earliest_mem (after r.now seconds) r.dues with e | e
    · rw [show timer = _ from e]
      exact ⟨nearest_after .., le_after hnow (not_le.1 hs).le⟩
    · exact ⟨hdues _ e, later _ e⟩
  · exact ⟨hvisits _ hc, hlt.le⟩

theorem turnAfter_ne_first (seconds : Rat) (r : Run) (t : Rat) :
    (turnAfter seconds r).1 ≠ .first t := by
  unfold turnAfter
  dsimp only
  split
  · exact Waking.next_ne_first r.waking t
  · split
    · exact Waking.next_ne_first r.waking.next t
    · simp

theorem turnAfter_later (seconds : Rat) {r : Run} (h : Timely r) :
    nearest (turnAfter seconds r).1.time = (turnAfter seconds r).1.time ∧
      r.now ≤ (turnAfter seconds r).1.time ∧ ∀ t, (turnAfter seconds r).1 ≠ .first t := by
  obtain ⟨hw, hnow⟩ := turnAfter_onward seconds h.now (by simp [h.alone]) h.dues
  exact ⟨hw, hnow, turnAfter_ne_first seconds r⟩

theorem Timely.unstopped {r : Run} (h : Timely r) : r.interrupt.bind Interrupt.stop? = none := by
  cases hi : r.interrupt with
  | none => rfl
  | some i =>
    obtain ⟨due, rfl, _⟩ := h.interrupt i hi
    rfl

theorem suspend_of_unstopped (seconds : Rat) {r : Run}
    (h : r.interrupt.bind Interrupt.stop? = none) :
    suspend seconds r = resume (turnAfter seconds r).1 (turnAfter seconds r).2 r := by
  simp only [suspend, h]

/-! ### Later runs -/

/-- The second run is a later state of the first, which was timely. -/
structure Later (a b : Run) : Prop where
  timely : Timely b
  now : a.now ≤ b.now
  waking : b.waking = a.waking ∨ ∀ t, b.waking ≠ .first t
  handed : a.handed <+: b.handed

theorem Later.refl {r : Run} (h : Timely r) : Later r r :=
  ⟨h, le_rfl, .inl rfl, List.prefix_rfl⟩

theorem Later.trans {a b c : Run} (h₁ : Later a b) (h₂ : Later b c) : Later a c where
  timely := h₂.timely
  now := h₁.now.trans h₂.now
  waking := by
    rcases h₂.waking with e | hn
    · rw [e]
      exact h₁.waking
    · exact .inr hn
  handed := h₁.handed.trans h₂.handed

theorem later_suspend (seconds : Rat) {r : Run} (h : Timely r) :
    Later r (suspend seconds r).1 := by
  obtain ⟨hw, hnow, hfirst⟩ := turnAfter_later seconds h
  rw [suspend_of_unstopped seconds h.unstopped]
  exact ⟨h.resume hw _, hnow, .inr hfirst, List.prefix_rfl⟩

theorem later_wait (sink : Receiver) {r : Run} (h : Timely r) : Later r (wait sink r).1 := by
  unfold wait
  cases sink.delay with
  | none => exact .refl h
  | some seconds => exact later_suspend seconds h

theorem later_finish (sink : Receiver) (call : Nat) (m : Message) {r : Run} (h : Timely r) :
    Later r (finish sink call m r).1 := by
  obtain ⟨sent, e, _⟩ := finish_frame sink call m r
  rw [e]
  exact ⟨⟨h.alone, h.now, h.interrupt, h.alarms⟩, le_rfl, .inl rfl, List.prefix_rfl⟩

theorem Timely.handing {r : Run} (h : Timely r) (handed : List Sent) : Timely { r with handed } :=
  ⟨h.alone, h.now, h.interrupt, h.alarms⟩

theorem later_send (sink : Receiver) (m : Message) {r : Run} (h : Timely r) :
    Later r (send sink m r).1 := by
  let handed := r.handed ++ [⟨r.now, m⟩]
  have h₀ : Later r { r with handed } :=
    ⟨h.handing handed, le_rfl, .inl rfl, List.prefix_append ..⟩
  have h₁ := h₀.trans (later_wait sink h₀.timely)
  unfold send Work.andThen
  dsimp only
  split <;> rename_i e <;> rw [e] at h₁
  · exact h₁.trans (later_finish sink handed.length m h₁.timely)
  · exact h₁

theorem Timely.enter {r : Run} (h : Timely r) (limit : Option Rat) : Timely (r.enter limit) :=
  ⟨h.alone, h.now, h.interrupt, Rounded.enter h.alarms limit⟩

theorem Timely.left {r : Run} (h : Timely r) : Timely r.left :=
  ⟨h.alone, h.now, h.interrupt, Rounded.left h.alarms⟩

theorem later_steps (sink : Receiver) :
    Stepwise (fun a b => Timely a → Later a b) (send sink) where
  refl _ h := .refl h
  trans h₁ h₂ h := (h₁ h).trans (h₂ (h₁ h).timely)
  suspend seconds _ h := later_suspend seconds h
  give m _ h := later_send sink m h
  mark _ _ h := ⟨⟨h.alone, h.now, h.interrupt, h.alarms⟩, le_rfl, .inl rfl, List.prefix_rfl⟩
  scope limit _ hw r h := by
    have hl := hw (r.enter limit) (h.enter limit)
    exact ⟨hl.timely.left, hl.now, hl.waking, hl.handed⟩

theorem later_execWith (sink : Receiver) (script : Script) {r : Run} (h : Timely r) :
    Later r (execWith (send sink) script r).1 :=
  (later_steps sink).execWith script r h

end Run

end Gatehouse
