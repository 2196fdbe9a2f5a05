import Mathlib.Data.List.Forall2
import Gatehouse.Proofs.Script.Steps

/-! # Requests for cancellation

A request for cancellation is made by a limit that rings or by a cancellation from outside, and
taken back by the limit that made it. So the requests that are not those of open scopes are
exactly the cancellations from outside that have come: `Settles` keeps this account, step by step.

It decides which scripts end in `CancelledError`. One that never raises it and that nobody
cancels does not (`requests_of_cancelled`); one that lets it through and is cancelled from outside
does, whatever limits ring at the same time (`cancelled_of_interrupted`). -/

namespace Gatehouse

/-! ### Two kinds of scripts -/

namespace Script

/-- The script does not raise `CancelledError` itself. -/
def NeverCancels : Script → Prop
  | done => True
  | sleep _ next => next.NeverCancels
  | send _ next => next.NeverCancels
  | fail failure => failure.isCancelled = false
  | mark _ next => next.NeverCancels
  | within _ body next => body.NeverCancels ∧ next.NeverCancels
  | attempt body _ handler cleanup next =>
    body.NeverCancels ∧ (∀ name, (handler name).NeverCancels) ∧ cleanup.NeverCancels ∧
      next.NeverCancels

/-- The script neither catches `CancelledError` nor has anything to clean up. -/
def LetsThrough : Script → Prop
  | done => True
  | sleep _ next => next.LetsThrough
  | send _ next => next.LetsThrough
  | fail _ => True
  | mark _ next => next.LetsThrough
  | within _ body next => body.LetsThrough ∧ next.LetsThrough
  | attempt body caught handler cleanup next =>
    body.LetsThrough ∧ "CancelledError" ∉ caught ∧ (∀ name, (handler name).LetsThrough) ∧
      cleanup = done ∧ next.LetsThrough

end Script

namespace Run

/-! ### The account -/

/-- The open scopes whose limits have rung. -/
def rungs (r : Run) : Nat := r.alarms.countP Alarm.rung

/-- The cancellations from outside that are still to come. -/
def coming (r : Run) : Nat := r.interrupt.toList.length

/-- The same alarms, none of which has been set again after it rang. -/
def StayRung : List Alarm → List Alarm → Prop :=
  List.Forall₂ fun x y => y.before = x.before ∧ (x.rung = true → y.rung = true)

theorem StayRung.refl (l : List Alarm) : StayRung l l :=
  List.forall₂_same.2 fun _ _ => ⟨rfl, id⟩

theorem StayRung.trans {l m n : List Alarm} (h₁ : StayRung l m) (h₂ : StayRung m n) :
    StayRung l n := by
  induction h₁ generalizing n with
  | nil => exact h₂
  | cons hxy _ ih =>
    cases h₂ with
    | cons hyz h₂ =>
      exact .cons ⟨hyz.1.trans hxy.1, hyz.2 ∘ hxy.2⟩ (ih h₂)

theorem StayRung.countP_le {l m : List Alarm} (h : StayRung l m) :
    l.countP Alarm.rung ≤ m.countP Alarm.rung := by
  induction h with
  | nil => exact Nat.le_refl _
  | @cons x y _ _ hxy _ ih =>
    rw [List.countP_cons, List.countP_cons]
    cases hx : x.rung with
    | false => exact Nat.le_trans ih (Nat.le_add_right _ _)
    | true => simpa [hxy.2 hx] using ih

theorem StayRung.countP_lt {l m : List Alarm} (h : StayRung l m) {a b : Alarm}
    (ha : l.getLast? = some a) (hb : m.getLast? = some b) (hstill : a.rung = false)
    (hrung : b.rung = true) : l.countP Alarm.rung < m.countP Alarm.rung := by
  have hl := List.dropLast_append_getLast? a ha
  have hm := List.dropLast_append_getLast? b hb
  have hinit : StayRung l.dropLast m.dropLast := by
    rw [StayRung, List.dropLast_eq_take, List.dropLast_eq_take, h.length_eq]
    exact List.forall₂_take _ h
  have := hinit.countP_le
  rw [← hl, ← hm, List.countP_append, List.countP_append]
  simp [hstill, hrung]
  omega

/-- From the first run to the second, no limit that has rung is set again, and every request
made meanwhile is that of a limit or of the cancellation from outside. -/
structure Settles (a b : Run) : Prop where
  alarms : StayRung a.alarms b.alarms
  coming : b.coming ≤ a.coming
  requests : b.requests + b.coming + a.rungs = a.requests + a.coming + b.rungs

theorem Settles.of_eq {a b : Run} (ha : b.alarms = a.alarms) (hi : b.interrupt = a.interrupt)
    (hq : b.requests = a.requests) : Settles a b := by
  refine ⟨ha ▸ .refl b.alarms, ?_, ?_⟩ <;> simp [Run.coming, Run.rungs, ha, hi, hq]

theorem Settles.refl (r : Run) : Settles r r := .of_eq rfl rfl rfl

theorem Settles.trans {a b c : Run} (h₁ : Settles a b) (h₂ : Settles b c) : Settles a c where
  alarms := h₁.alarms.trans h₂.alarms
  coming := Nat.le_trans h₂.coming h₁.coming
  requests := by
    have := h₁.requests
    have := h₂.requests
    omega

theorem Settles.rungs {a b : Run} (h : Settles a b) : a.rungs ≤ b.rungs :=
  h.alarms.countP_le

theorem Settles.requests_le {a b : Run} (h : Settles a b) : a.requests ≤ b.requests := by
  have := h.requests
  have := h.coming
  have := h.rungs
  omega

/-- If each limit that has rung has a request, this stays so. -/
theorem Settles.covered {a b : Run} (h : Settles a b) (ha : a.rungs ≤ a.requests) :
    b.rungs ≤ b.requests := by
  have := h.requests
  have := h.coming
  omega

/-! ### Suspension -/

theorem rungs_hastened (r : Run) : r.hastened.rungs = r.rungs := by
  simp only [Run.rungs, Run.hastened, List.countP_map]
  rfl

theorem coming_hastened (r : Run) : r.hastened.coming = r.coming := by
  cases h : r.interrupt <;> simp [Run.coming, Run.hastened, h]

theorem rung_ring (isDue : Rat → Bool) (a : Alarm) :
    (a.ring isDue).rung = (a.rung || a.pending.any isDue) := by
  unfold Alarm.ring
  cases a.pending.any isDue <;> simp

theorem before_ring (isDue : Rat → Bool) (a : Alarm) : (a.ring isDue).before = a.before := by
  unfold Alarm.ring
  split <;> rfl

/-- The limits that ring are those that are due. -/
theorem countP_ring (isDue : Rat → Bool) (l : List Alarm) :
    (l.map (Alarm.ring isDue)).countP Alarm.rung =
      l.countP Alarm.rung + ((l.filterMap Alarm.pending).filter isDue).length := by
  induction l with
  | nil => rfl
  | cons a l ih =>
    rw [List.map_cons, List.countP_cons, List.countP_cons, ih, rung_ring]
    obtain ⟨due, before, rung⟩ := a
    cases rung
    · cases due with
      | none => simp [Alarm.pending]
      | some due => cases h : isDue due <;> simp [Alarm.pending, h]; omega
    · simp [Alarm.pending]
      omega

theorem coming_resume (w : Waking) (isDue : Rat → Bool) (r : Run) :
    (resume w isDue r).1.coming +
      ((r.interrupt.bind Interrupt.due?).toList.filter isDue).length = r.coming := by
  unfold resume
  rw [coming_hastened]
  cases hi : r.interrupt with
  | none => simp [Run.coming, hi]
  | some i =>
    cases i with
    | timer due => cases h : isDue due <;> simp [Run.coming, hi, Interrupt.due?, h]
    | stop w => simp [Run.coming, hi, Interrupt.due?]

theorem settles_resume (w : Waking) (isDue : Rat → Bool) (r : Run) :
    Settles r (resume w isDue r).1 := by
  have coming := coming_resume w isDue r
  have rungs : (resume w isDue r).1.rungs =
      r.rungs + ((r.alarms.filterMap Alarm.pending).filter isDue).length := by
    unfold resume
    rw [rungs_hastened]
    exact countP_ring isDue r.alarms
  have requests : (resume w isDue r).1.requests =
      r.requests + (((r.interrupt.bind Interrupt.due?).toList.filter isDue).length +
        ((r.alarms.filterMap Alarm.pending).filter isDue).length) := by
    show r.requests + (r.dues.filter isDue).length = _
    rw [Run.dues, List.filter_append, List.length_append]
  refine ⟨?_, by omega, by omega⟩
  show StayRung r.alarms ((r.alarms.map (Alarm.ring isDue)).map _)
  rw [StayRung, List.map_map, List.forall₂_map_right_iff, List.forall₂_same]
  intro a _
  refine ⟨before_ring isDue a, fun ha => ?_⟩
  show (a.ring isDue).rung = true
  rw [rung_ring, ha]
  rfl

theorem settles_suspend (seconds : Rat) (r : Run) : Settles r (suspend seconds r).1 := by
  unfold suspend
  dsimp only
  split
  · rename_i stop hs
    split
    · exact settles_resume _ _ r
    · -- the cancellation from outside comes, and makes its request
      let r' : Run := { r with interrupt := none, requests := r.requests + 1 }
      have h₀ : Settles r r' := by
        refine ⟨.refl r.alarms, Nat.zero_le _, ?_⟩
        obtain ⟨i, hi, -⟩ := Option.bind_eq_some_iff.1 hs
        show r.requests + 1 + 0 + r.rungs = r.requests + r.coming + r.rungs
        simp [Run.coming, hi]
      exact h₀.trans (settles_resume stop.next (fun t => t < Moment.soon stop.time) r')
  · exact settles_resume _ _ r

/-! ### Scopes and scripts -/

theorem rungs_enter (limit : Option Rat) (r : Run) : (r.enter limit).rungs = r.rungs := by
  simp [Run.rungs, Run.enter]

theorem settles_scope (limit : Option Rat) {w : Work} {r : Run}
    (hw : Settles (r.enter limit) (w (r.enter limit)).1)
    (hc : r.rungs ≤ r.requests) : Settles r (scope limit w r).1 := by
  have hcov : (w (r.enter limit)).1.rungs ≤ (w (r.enter limit)).1.requests := by
    refine hw.covered ?_
    rwa [rungs_enter]
  obtain ⟨ha, hi, hq⟩ := hw
  show Settles r (w (r.enter limit)).1.left
  generalize (w (r.enter limit)).1 = s at ha hi hq hcov
  cases hs : s.alarms with
  | nil =>
    rw [hs] at ha
    nomatch ha
  | cons x rest =>
    rw [hs] at ha
    refine ⟨?_, hi, ?_⟩
    · rw [show s.left.alarms = rest by simp [Run.left, hs]]
      exact (List.forall₂_cons.1 ha).2
    · have hx : s.rungs = rest.countP Alarm.rung + if x.rung then 1 else 0 := by
        rw [Run.rungs, hs, List.countP_cons]
      have hl : s.left.rungs = rest.countP Alarm.rung := by simp [Run.left, Run.rungs, hs]
      have hr : s.left.requests = if x.rung then s.requests - 1 else s.requests := by
        simp [Run.left, Run.expired, hs]
      have hq' : s.requests + s.coming + r.rungs = r.requests + r.coming + s.rungs := by
        rw [rungs_enter] at hq
        exact hq
      show s.left.requests + s.coming + r.rungs = r.requests + r.coming + s.left.rungs
      rw [hl, hr]
      split at hx <;> simp only [*, if_true, Bool.false_eq_true, if_false] <;> omega

/-- If the limit of a scope has rung then more have rung than when the scope was entered. -/
theorem Settles.rungs_lt {limit : Option Rat} {r s : Run} (h : Settles (r.enter limit) s)
    (he : s.expired = true) : r.rungs < s.rungs := by
  have ha : StayRung (⟨_, _, _⟩ :: r.alarms) s.alarms := h.alarms
  unfold expired at he
  unfold Run.rungs
  cases hs : s.alarms with
  | nil => simp [hs] at he
  | cons x rest =>
    rw [hs] at ha
    have hx : x.rung = true := by simpa [hs] using he
    have hrest : StayRung r.alarms rest := (List.forall₂_cons.1 ha).2
    rw [List.countP_cons_of_pos hx]
    exact Nat.lt_succ_of_le hrest.countP_le

/-- No more requests are excused than the scope was entered with. -/
theorem Settles.excused_le {limit : Option Rat} {r s : Run} (h : Settles (r.enter limit) s) :
    s.excused ≤ r.requests := by
  have ha : StayRung (⟨_, r.requests, _⟩ :: r.alarms) s.alarms := h.alarms
  unfold excused
  cases s.reckoning with
  | all => exact Nat.zero_le _
  | sinceEntry =>
    cases hs : s.alarms with
    | nil => exact Nat.zero_le _
    | cons x rest =>
      rw [hs] at ha
      exact Nat.le_of_eq (List.forall₂_cons.1 ha).1.1

/-- A scope does not take a cancellation for its own if more requests are left than it was entered
with. -/
theorem Settles.translated {limit : Option Rat} {r s : Run} (h : Settles (r.enter limit) s)
    (hleft : s.expired = true → r.requests < s.left.requests) (m : String) :
    s.translated (.error (.cancelled m)) = .error (.cancelled m) := by
  have hexcused := h.excused_le
  show (if s.expired && decide (s.left.requests ≤ s.excused) then _ else _) = _
  rw [if_neg]
  intro hx
  obtain ⟨he, hq⟩ := Bool.and_eq_true_iff.1 hx
  have := hleft he
  have := of_decide_eq_true hq
  omega

theorem settles_note (m : Message) : Keeps Settles (note m) := by
  intro r
  obtain e | ⟨_, e⟩ := note_cases m r <;> rw [e]
  · exact .of_eq rfl rfl rfl
  · exact .refl r

theorem settles_wait (sink : Receiver) : Keeps Settles (wait sink) := by
  intro r
  unfold wait
  cases sink.delay with
  | none => exact .refl r
  | some seconds => exact settles_suspend seconds r

theorem settles_finish (sink : Receiver) (call : Nat) (m : Message) :
    Keeps Settles (finish sink call m) := by
  intro r
  obtain ⟨sent, e, -⟩ := finish_frame sink call m r
  rw [e]
  exact .of_eq rfl rfl rfl

theorem settles_send (sink : Receiver) (m : Message) : Keeps Settles (send sink m) := by
  intro r
  let r' : Run := { r with handed := r.handed ++ [⟨r.now, m⟩] }
  have h₀ : Settles r r' := .of_eq rfl rfl rfl
  have h₁ := h₀.trans (settles_wait sink r')
  show Settles r (Work.andThen (wait sink) (finish sink r'.handed.length m) r').1
  unfold Work.andThen
  split <;> rename_i e <;> rw [e] at h₁
  · exact h₁.trans (settles_finish sink r'.handed.length m _)
  · exact h₁

theorem settles_noteAndSend (sink : Receiver) (m : Message) :
    Keeps Settles (noteAndSend sink m) := by
  intro r
  obtain e | ⟨_, e⟩ := note_cases m r
  · rw [noteAndSend, Work.andThen_of_ok e]
    have h₀ : Settles r { r with status := m.status?.getD r.status } := .of_eq rfl rfl rfl
    exact h₀.trans (settles_send sink m _)
  · rw [noteAndSend, Work.andThen_of_error e]
    exact .refl r

/-- Where each limit that has rung has its request, the account is kept. -/
def Accounts (a b : Run) : Prop := a.rungs ≤ a.requests → Settles a b

theorem accounts_steps (sink : Receiver) : Stepwise Accounts (noteAndSend sink) where
  refl r _ := .refl r
  trans h₁ h₂ ha := (h₁ ha).trans (h₂ ((h₁ ha).covered ha))
  suspend seconds r _ := settles_suspend seconds r
  give m r _ := settles_noteAndSend sink m r
  mark _ _ _ := .of_eq rfl rfl rfl
  scope limit w hw r ha := by
    refine settles_scope limit (hw _ ?_) ha
    rwa [rungs_enter]

theorem accounts_exec (sink : Receiver) (script : Script) : Keeps Accounts (exec sink script) :=
  (accounts_steps sink).execWith script

/-! ### Scripts that nobody cancels -/

/-- The work ends in `CancelledError` only if a request is left. -/
def Owes (w : Work) : Prop :=
  ∀ r m, r.rungs ≤ r.requests → (w r).2 = .error (.cancelled m) → 0 < (w r).1.requests

theorem owes_suspend (seconds : Rat) : Owes (suspend seconds) := by
  intro r m _ h
  have resumed : ∀ w isDue, (resume w isDue r).2 = .error (.cancelled m) →
      0 < (resume w isDue r).1.requests := by
    intro w isDue h
    have hne : r.dues.filter isDue ≠ [] := by
      intro e
      simp [resume, e] at h
    show 0 < r.requests + (r.dues.filter isDue).length
    have := List.length_pos_iff.2 hne
    omega
  unfold suspend at h ⊢
  dsimp only at h ⊢
  split at h
  · split at h
    · rw [if_pos ‹_›]
      exact resumed _ _ h
    · rw [if_neg ‹_›]
      show 0 < r.requests + 1 + _
      omega
  · exact resumed _ _ h

theorem Owes.andThen {v w : Work} (hv : Owes v) (hk : Keeps Accounts v) (hw : Owes w) :
    Owes (Work.andThen v w) := by
  intro r m hr h
  have h₁ := hv r m hr
  have h₂ := hk r hr
  unfold Work.andThen at h ⊢
  split at h <;> rename_i e <;> rw [e] at h₁ h₂
  · exact hw _ m (h₂.covered hr) h
  · exact h₁ h

theorem owes_of_not_cancelled {w : Work} (h : ∀ r f, (w r).2 = .error f → f.isCancelled = false) :
    Owes w := by
  intro r m _ he
  have := h r _ he
  simp [Failure.isCancelled] at this

theorem owes_note (m : Message) : Owes (note m) := by
  apply owes_of_not_cancelled
  intro r f h
  cases m with
  | start status _ => cases status <;> simp [note] at h; subst h; rfl
  | body _ _ => simp [note] at h
  | other kind => cases kind <;> simp [note] at h; subst h; rfl

theorem owes_wait (sink : Receiver) : Owes (wait sink) := by
  unfold wait
  cases sink.delay with
  | none => exact owes_of_not_cancelled (by simp [Work.succeed])
  | some seconds => exact owes_suspend seconds

theorem owes_finish (sink : Receiver) (call : Nat) (m : Message) : Owes (finish sink call m) := by
  apply owes_of_not_cancelled
  intro r f h
  unfold finish at h
  split at h
  · cases h
    rfl
  · cases h

theorem owes_send (sink : Receiver) (m : Message) : Owes (send sink m) := by
  intro r n hr h
  let handed := r.handed ++ [⟨r.now, m⟩]
  exact (owes_wait sink).andThen (fun r _ => settles_wait sink r)
    (owes_finish sink handed.length m) { r with handed } n hr h

theorem owes_noteAndSend (sink : Receiver) (m : Message) : Owes (noteAndSend sink m) :=
  (owes_note m).andThen (fun r _ => settles_note m r) (owes_send sink m)

theorem cancelled_of_translated {s : Run} {out : Outcome} {m : String}
    (h : s.translated out = .error (.cancelled m)) :
    out = .error (.cancelled m) ∧ (s.expired = true → s.left.requests ≠ 0) := by
  unfold translated at h
  split at h
  · split at h
    · cases h
    · refine ⟨h, ?_⟩
      intro he hq
      simp [he, hq] at *
  · exact absurd h (by rintro rfl; simp at *)

theorem owes_scope (limit : Option Rat) {w : Work} (hw : Owes w) : Owes (scope limit w) := by
  intro r m hr h
  obtain ⟨hout, hleft⟩ := cancelled_of_translated h
  have hq := hw (r.enter limit) m (by rwa [rungs_enter]) hout
  show 0 < (w (r.enter limit)).1.left.requests
  cases he : (w (r.enter limit)).1.expired with
  | true => exact Nat.pos_of_ne_zero (hleft he)
  | false => simpa [left, he] using hq

theorem owes_handle {caught : List String} {handler : String → Work}
    (hh : ∀ name, Owes (handler name)) {r : Run} {out : Outcome} {m : String}
    (hr : r.rungs ≤ r.requests) (hout : ∀ m, out = .error (.cancelled m) → 0 < r.requests)
    (h : (handle caught handler (r, out)).2 = .error (.cancelled m)) :
    0 < (handle caught handler (r, out)).1.requests := by
  cases out with
  | ok => cases h
  | error f =>
    unfold handle at h ⊢
    dsimp only at h ⊢
    split at h
    · rw [if_pos ‹_›]
      exact hh f.name r m hr h
    · rw [if_neg ‹_›]
      exact hout m h

theorem owes_cleanUp {cleanup : Work} (hc : Owes cleanup) (hk : Keeps Accounts cleanup) {r : Run}
    {out : Outcome} {m : String} (hr : r.rungs ≤ r.requests)
    (hout : ∀ m, out = .error (.cancelled m) → 0 < r.requests)
    (h : (cleanUp cleanup (r, out)).2 = .error (.cancelled m)) :
    0 < (cleanUp cleanup (r, out)).1.requests := by
  have h₁ := hc r m hr
  have h₂ := hk r hr
  unfold cleanUp at h ⊢
  dsimp only at h ⊢
  split at h <;> rename_i e <;> rw [e] at h₁ h₂
  · exact Nat.lt_of_lt_of_le (hout m h) h₂.requests_le
  · exact h₁ h

theorem owes_exec (sink : Receiver) {script : Script} (hs : script.NeverCancels) :
    Owes (exec sink script) := by
  have keeps := accounts_exec sink
  induction script with
  | done => exact owes_of_not_cancelled (by simp [exec, execWith, Work.succeed])
  | sleep seconds next ih =>
    exact (owes_suspend seconds).andThen (fun r _ => settles_suspend seconds r) (ih hs)
  | send message next ih =>
    exact (owes_noteAndSend sink message).andThen (fun r _ => settles_noteAndSend sink message r)
      (ih hs)
  | fail failure =>
    apply owes_of_not_cancelled
    intro r f h
    cases h
    exact hs
  | mark name next ih =>
    refine Owes.andThen (owes_of_not_cancelled ?_) ((accounts_steps sink).mark name) (ih hs)
    simp [mark]
  | within limit body next ihb ih =>
    exact (owes_scope limit (ihb hs.1)).andThen ((accounts_steps sink).scope limit (keeps body))
      (ih hs.2)
  | attempt body caught handler cleanup next ihb ihh ihc ih =>
    obtain ⟨hb, hh, hc, hn⟩ := hs
    refine Owes.andThen ?_ ((accounts_steps sink).recover (keeps body) (fun name => keeps _)
      (keeps cleanup)) (ih hn)
    intro r m hr h
    have hbody : Accounts r (exec sink body r).1 := keeps body r
    have hhandled : Accounts (exec sink body r).1
        (handle caught (fun name => exec sink (handler name)) (exec sink body r)).1 :=
      (accounts_steps sink).handle (fun name => keeps (handler name)) _
    have hr₁ := (hbody hr).covered hr
    refine owes_cleanUp (ihc hc) (keeps cleanup) ((hhandled hr₁).covered hr₁) ?_ h
    intro m h
    exact owes_handle (fun name => ihh name (hh name)) hr₁ (fun m => ihb hb r m hr) h

/-- A script that does not raise `CancelledError` itself ends in it only if a request is left. -/
theorem requests_of_cancelled {sink : Receiver} {script : Script} (hs : script.NeverCancels)
    {r : Run} (hr : r.rungs ≤ r.requests) {m : String}
    (h : (exec sink script r).2 = .error (.cancelled m)) : 0 < (exec sink script r).1.requests :=
  owes_exec sink hs r m hr h

/-! ### Scripts that are cancelled from outside -/

/-- The work ends in `CancelledError` if a cancellation from outside comes meanwhile. -/
def Yields (w : Work) : Prop :=
  ∀ r, r.rungs ≤ r.requests → (w r).1.coming < r.coming → ∃ m, (w r).2 = .error (.cancelled m)

theorem yields_of_unchanged {w : Work} (h : ∀ r, (w r).1.interrupt = r.interrupt) : Yields w := by
  intro r _ hlt
  simp [Run.coming, h r] at hlt

theorem yields_suspend (seconds : Rat) : Yields (suspend seconds) := by
  intro r _ h
  have resumed : ∀ w isDue, (resume w isDue r).1.coming < r.coming →
      (resume w isDue r).2 = .error (.cancelled "") := by
    intro w isDue h
    have hc := coming_resume w isDue r
    have hne : ((r.interrupt.bind Interrupt.due?).toList.filter isDue) ≠ [] := by
      intro e
      rw [e, List.length_nil] at hc
      omega
    show (if (r.dues.filter isDue).isEmpty then _ else _) = _
    rw [if_neg]
    simp only [Run.dues, List.filter_append, List.isEmpty_iff, List.append_eq_nil_iff]
    exact fun e => hne e.1
  unfold suspend at h ⊢
  dsimp only at h ⊢
  split at h
  · split at h
    · rw [if_pos ‹_›]
      exact ⟨_, resumed _ _ h⟩
    · rw [if_neg ‹_›]
      exact ⟨_, rfl⟩
  · exact ⟨_, resumed _ _ h⟩

theorem Yields.andThen {v w : Work} (hv : Yields v) (hk : Keeps Accounts v) (hw : Yields w) :
    Yields (Work.andThen v w) := by
  intro r hr h
  have h₁ := hv r hr
  have h₂ := hk r hr
  unfold Work.andThen at h ⊢
  split at h <;> rename_i e <;> rw [e] at h₁ h₂
  · -- had it come during the first, that would not have succeeded
    have hs : ¬ Run.coming _ < r.coming := fun hlt => by
      obtain ⟨m, hm⟩ := h₁ hlt
      cases hm
    exact hw _ (h₂.covered hr) (by have := h₂.coming; dsimp only at hs this; omega)
  · exact h₁ h

theorem yields_wait (sink : Receiver) : Yields (wait sink) := by
  unfold wait
  cases sink.delay with
  | none => exact yields_of_unchanged fun _ => rfl
  | some seconds => exact yields_suspend seconds

theorem yields_send (sink : Receiver) (m : Message) : Yields (send sink m) := by
  intro r hr h
  let handed := r.handed ++ [⟨r.now, m⟩]
  refine (yields_wait sink).andThen (fun r _ => settles_wait sink r) ?_ { r with handed } hr h
  apply yields_of_unchanged
  intro r
  obtain ⟨sent, e, -⟩ := finish_frame sink handed.length m r
  rw [e]

theorem yields_noteAndSend (sink : Receiver) (m : Message) : Yields (noteAndSend sink m) := by
  refine Yields.andThen ?_ (fun r _ => settles_note m r) (yields_send sink m)
  apply yields_of_unchanged
  intro r
  obtain e | ⟨_, e⟩ := note_cases m r <;> rw [e]

/-- A cancellation from outside makes a request beyond those of the limits, so that no scope
takes the cancellation for its own. -/
theorem yields_scope (limit : Option Rat) {w : Work} (hw : Yields w) (hk : Keeps Accounts w) :
    Yields (scope limit w) := by
  intro r hr h
  have hr' : (r.enter limit).rungs ≤ (r.enter limit).requests := by rwa [rungs_enter]
  obtain ⟨m, hm⟩ := hw (r.enter limit) hr' h
  have hs : Settles (r.enter limit) (w (r.enter limit)).1 := hk _ hr'
  refine ⟨m, ?_⟩
  show (w (r.enter limit)).1.translated (w (r.enter limit)).2 = _
  rw [hm]
  change (w (r.enter limit)).1.coming < r.coming at h
  generalize (w (r.enter limit)).1 = s at hs h
  refine hs.translated (fun he => ?_) m
  have hrungs := hs.rungs_lt he
  have hq : s.requests + s.coming + r.rungs = r.requests + r.coming + s.rungs := hs.requests
  have hleft : s.left.requests = s.requests - 1 := by simp [left, he]
  omega

/-- Nothing else that fails is taken for a cancellation either. -/
theorem yields_attempt {body : Work} {caught : List String} {handler : String → Work}
    (hb : Yields body) (hkb : Keeps Accounts body) (hn : "CancelledError" ∉ caught)
    (hh : ∀ name, Yields (handler name)) :
    Yields fun r => recover caught handler Work.succeed (body r) := by
  intro r hr h
  have h₁ := hb r hr
  have h₂ := hkb r hr
  change (handle caught handler (body r)).1.coming < r.coming at h
  show ∃ m, (handle caught handler (body r)).2 = .error (.cancelled m)
  generalize body r = result at h h₁ h₂
  obtain ⟨s, out⟩ := result
  cases out with
  | ok =>
    obtain ⟨m, hm⟩ := h₁ h
    cases hm
  | error f =>
    unfold handle at h ⊢
    dsimp only at h h₁ h₂ ⊢
    by_cases hs : s.coming < r.coming
    · -- it came during the body, which ended in it
      obtain ⟨m, hm⟩ := h₁ hs
      cases hm
      rw [if_neg (by simpa [Failure.name] using hn)]
      exact ⟨m, rfl⟩
    · split at h
      · rw [if_pos ‹_›]
        have := h₂.coming
        exact hh f.name s (h₂.covered hr) (by omega)
      · exact absurd h hs

theorem yields_exec (sink : Receiver) {script : Script} (hs : script.LetsThrough) :
    Yields (exec sink script) := by
  have keeps := accounts_exec sink
  induction script with
  | done => exact yields_of_unchanged fun _ => rfl
  | sleep seconds next ih =>
    exact (yields_suspend seconds).andThen (fun r _ => settles_suspend seconds r) (ih hs)
  | send message next ih =>
    exact (yields_noteAndSend sink message).andThen (fun r _ => settles_noteAndSend sink message r)
      (ih hs)
  | fail failure => exact yields_of_unchanged fun _ => rfl
  | mark name next ih =>
    exact (yields_of_unchanged fun _ => rfl).andThen ((accounts_steps sink).mark name) (ih hs)
  | within limit body next ihb ih =>
    exact (yields_scope limit (ihb hs.1) (keeps body)).andThen
      ((accounts_steps sink).scope limit (keeps body)) (ih hs.2)
  | attempt body caught handler cleanup next ihb ihh _ ih =>
    obtain ⟨hb, hn, hh, rfl, hnext⟩ := hs
    exact (yields_attempt (ihb hb) (keeps body) hn fun name => ihh name (hh name)).andThen
      ((accounts_steps sink).recover (keeps body) (fun name => keeps _) (keeps .done)) (ih hnext)

/-- A script that lets cancellations through ends in one if it is cancelled from outside. -/
theorem cancelled_of_interrupted {sink : Receiver} {script : Script} (hs : script.LetsThrough)
    {r : Run} (hr : r.rungs ≤ r.requests) (h : (exec sink script r).1.coming < r.coming) :
    ∃ m, (exec sink script r).2 = .error (.cancelled m) :=
  yields_exec sink hs r hr h

end Run

end Gatehouse
