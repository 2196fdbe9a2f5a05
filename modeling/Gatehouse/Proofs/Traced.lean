import Gatehouse.Traced

/-! # Traced work

What is put together from pieces ends as its first piece does if that fails (`outcome_bind`), and
succeeds if and only if each piece does (`outcome_bind_ok`).

`Traced.Alike plans R x y` says that `x` and `y` leave the same trace and end in the same way: they
fail with the same failure, or end with values that stand in `R`. If `plans` is not set then traces
may differ in their explanations, and `Alike true Eq` is equality (`Alike.eq`).

`Traced.Akin E plans R` says the same but for the failures, which only stand in `E`; with `Eq` for
`E` it is `Alike`. It is closed under everything that puts pieces of work together (`Akin.bind`,
`Akin.rescue`, `Akin.bound`), so two runs are compared by comparing their steps. -/

namespace Gatehouse

namespace Traced

variable {α β γ δ : Type}

theorem outcome_bind (x : Traced α) (f : α → Traced β) :
    (x >>= f).outcome = x.outcome.bind fun a => (f a).outcome := by
  show (andThen x f).outcome = _
  unfold andThen
  cases x.outcome <;> rfl

theorem outcome_bind_ok {x : Traced α} {f : α → Traced β} {b : β} :
    (x >>= f).outcome = .ok b ↔ ∃ a, x.outcome = .ok a ∧ (f a).outcome = .ok b := by
  rw [outcome_bind]
  cases x.outcome with
  | error e => simp [Except.bind]
  | ok a => simp [Except.bind]

theorem outcome_rescue_ok {x : Traced α} {a : α} (h : x.outcome = .ok a)
    (handler : Failure → Traced α) : (x.rescue handler).outcome = .ok a := by
  simp only [rescue, h]

theorem outcome_rescue_error {x : Traced α} {f : Failure} (h : x.outcome = .error f)
    (handler : Failure → Traced α) : (x.rescue handler).outcome = (handler f).outcome := by
  simp only [rescue, h]

instance : LawfulMonad Traced := by
  refine .mk' _ ?id_map ?pure_bind ?bind_assoc
  case id_map =>
    rintro α ⟨_ | a, effects⟩
    · rfl
    · exact congrArg (Traced.mk _) (List.append_nil effects)
  case pure_bind => exact fun a f => rfl
  case bind_assoc =>
    rintro α β γ ⟨_ | a, effects⟩ f g
    · rfl
    · show andThen (andThen _ f) g = andThen _ fun a => andThen (f a) g
      cases h : (f a).outcome <;> simp [andThen, h]

/-! ### Two traces -/

end Traced

/-- Whether an effect is looked at when traces are compared: an explanation only if `plans` is
set. -/
def Effect.isShown (plans : Bool) : Effect → Bool
  | .explained _ => plans
  | _ => true

/-- Two traces that look the same. -/
def SameTrace (plans : Bool) (l m : List Effect) : Prop :=
  l.filter (Effect.isShown plans) = m.filter (Effect.isShown plans)

namespace SameTrace

variable {plans : Bool} {l l' m m' : List Effect}

theorem refl (l : List Effect) : SameTrace plans l l := rfl

theorem eq (h : SameTrace true l m) : l = m := by
  have hall : ∀ k : List Effect, k.filter (Effect.isShown true) = k := fun k =>
    List.filter_eq_self.2 fun e _ => by cases e <;> rfl
  rwa [SameTrace, hall, hall] at h

theorem append (h : SameTrace plans l m) (h' : SameTrace plans l' m') :
    SameTrace plans (l ++ l') (m ++ m') := by
  unfold SameTrace at *
  rw [List.filter_append, List.filter_append, h, h']

/-- What is bound to the events does not change what is looked at. -/
theorem bound (fields : Fields) (h : SameTrace plans l m) :
    SameTrace plans ((⟨.ok (), l⟩ : Traced Unit).bound fields).effects
      ((⟨.ok (), m⟩ : Traced Unit).bound fields).effects := by
  have hshown : ∀ g : Effect → Effect, (∀ e, (g e).isShown plans = e.isShown plans) →
      SameTrace plans (l.map g) (m.map g) := by
    intro g hg
    have hcomp : Effect.isShown plans ∘ g = Effect.isShown plans := funext hg
    unfold SameTrace at *
    rw [List.filter_map, List.filter_map, hcomp, h]
  exact hshown _ fun e => by cases e <;> rfl

theorem events (h : SameTrace plans l m) :
    (⟨.ok (), l⟩ : Traced Unit).events = (⟨.ok (), m⟩ : Traced Unit).events := by
  -- no event is left out
  have hkept : ∀ k : List Effect, (⟨.ok (), k.filter (Effect.isShown plans)⟩ : Traced Unit).events =
      (⟨.ok (), k⟩ : Traced Unit).events := by
    intro k
    unfold Traced.events
    dsimp only
    rw [List.filterMap_filter]
    congr 1
    funext e
    cases e <;> cases plans <;> rfl
  rw [← hkept l, ← hkept m, show l.filter _ = m.filter _ from h]

end SameTrace

namespace Traced

/-! ### Two pieces of work -/

variable {plans : Bool}

inductive Alike (plans : Bool) (R : α → β → Prop) : Traced α → Traced β → Prop
  | ok {a b} {l m : List Effect} (trace : SameTrace plans l m) (h : R a b) :
    Alike plans R ⟨.ok a, l⟩ ⟨.ok b, m⟩
  | error (f : Failure) {l m : List Effect} (trace : SameTrace plans l m) :
    Alike plans R ⟨.error f, l⟩ ⟨.error f, m⟩

namespace Alike

variable {R : α → β → Prop} {S : γ → δ → Prop}

theorem trace {x : Traced α} {y : Traced β} (h : Alike plans R x y) :
    SameTrace plans x.effects y.effects := by
  cases h <;> assumption

theorem events {x : Traced α} {y : Traced β} (h : Alike plans R x y) : x.events = y.events :=
  h.trace.events

theorem outcome {x y : Traced α} (h : Alike plans Eq x y) : x.outcome = y.outcome := by
  cases h with
  | ok _ h => rw [h]
  | error f _ => rfl

theorem eq {x y : Traced α} (h : Alike true Eq x y) : x = y := by
  have ho := h.outcome
  have ht := h.trace.eq
  cases x
  cases y
  cases ho
  cases ht
  rfl

theorem refl (x : Traced α) : Alike plans Eq x x := by
  obtain ⟨outcome, effects⟩ := x
  cases outcome with
  | ok a => exact .ok (.refl _) rfl
  | error f => exact .error f (.refl _)

theorem fail (f : Failure) : Alike plans R (fail f) (fail f) := .error f (.refl _)

theorem bound {x : Traced α} {y : Traced β} (fields : Fields) (h : Alike plans R x y) :
    Alike plans R (x.bound fields) (y.bound fields) := by
  cases h with
  | ok trace h => exact .ok (trace.bound fields) h
  | error f trace => exact .error f (trace.bound fields)

end Alike

/-! ### Failures that stand for each other -/

/-- Both end with a failure or both with a value: failures that stand in `E`, or values that stand
in `R`. -/
inductive EndAlike (E : Failure → Failure → Prop) (R : α → β → Prop) :
    Except Failure α → Except Failure β → Prop
  | ok {a b} (h : R a b) : EndAlike E R (.ok a) (.ok b)
  | error {f g} (h : E f g) : EndAlike E R (.error f) (.error g)

theorem EndAlike.map {E : Failure → Failure → Prop} {R : α → β → Prop} {S : γ → δ → Prop}
    {f : α → γ} {g : β → δ} {v : Except Failure α} {w : Except Failure β} (h : EndAlike E R v w)
    (hf : ∀ a b, R a b → S (f a) (g b)) : EndAlike E S (v.map f) (w.map g) := by
  cases h with
  | ok h => exact .ok (hf _ _ h)
  | error h => exact .error h

/-- Like `Alike`, but failures need not be the same: they stand in `E`. -/
structure Akin (E : Failure → Failure → Prop) (plans : Bool) (R : α → β → Prop) (x : Traced α)
    (y : Traced β) : Prop where
  trace : SameTrace plans x.effects y.effects
  outcome : EndAlike E R x.outcome y.outcome

namespace Akin

variable {E : Failure → Failure → Prop} {R R' : α → β → Prop} {S : γ → δ → Prop}

theorem alike {x : Traced α} {y : Traced β} (h : Akin Eq plans R x y) : Alike plans R x y := by
  obtain ⟨outcome, effects⟩ := x
  obtain ⟨outcome', effects'⟩ := y
  obtain ⟨trace, ho⟩ := h
  cases ho with
  | ok h => exact .ok trace h
  | error h => exact h ▸ .error _ trace

theorem of_alike {x : Traced α} {y : Traced β} (h : Alike plans R x y) : Akin Eq plans R x y := by
  cases h with
  | ok trace h => exact ⟨trace, .ok h⟩
  | error f trace => exact ⟨trace, .error rfl⟩

theorem mono {x : Traced α} {y : Traced β} (h : Akin E plans R x y)
    (hR : ∀ a b, R a b → R' a b) : Akin E plans R' x y := by
  obtain ⟨outcome, effects⟩ := x
  obtain ⟨outcome', effects'⟩ := y
  obtain ⟨trace, ho⟩ := h
  cases ho with
  | ok h => exact ⟨trace, .ok (hR _ _ h)⟩
  | error h => exact ⟨trace, .error h⟩

theorem refl (hE : ∀ f, E f f) (x : Traced α) : Akin E plans Eq x x := by
  refine ⟨.refl _, ?_⟩
  cases x.outcome with
  | ok a => exact .ok rfl
  | error f => exact .error (hE f)

theorem succeed {a : α} {b : β} (h : R a b) : Akin E plans R (succeed a) (succeed b) :=
  ⟨.refl _, .ok h⟩

theorem fail {f g : Failure} (h : E f g) : Akin E plans R (fail f) (fail g) :=
  ⟨.refl _, .error h⟩

theorem after {x : Traced α} {y : Traced β} {l m : List Effect} (trace : SameTrace plans l m)
    (h : Akin E plans R x y) :
    Akin E plans R ⟨x.outcome, l ++ x.effects⟩ ⟨y.outcome, m ++ y.effects⟩ :=
  ⟨trace.append h.trace, h.outcome⟩

theorem bind {x : Traced α} {y : Traced β} {f : α → Traced γ} {g : β → Traced δ}
    (h : Akin E plans R x y) (hf : ∀ a b, R a b → Akin E plans S (f a) (g b)) :
    Akin E plans S (x >>= f) (y >>= g) := by
  obtain ⟨outcome, effects⟩ := x
  obtain ⟨outcome', effects'⟩ := y
  obtain ⟨trace, ho⟩ := h
  cases ho with
  | ok h => exact (hf _ _ h).after trace
  | error h => exact ⟨trace, .error h⟩

theorem bind_same {x y : Traced α} {f : α → Traced γ} {g : α → Traced δ}
    (h : Akin E plans Eq x y) (hf : ∀ a, Akin E plans S (f a) (g a)) :
    Akin E plans S (x >>= f) (y >>= g) :=
  h.bind fun a _ h => h ▸ hf a

theorem attempt {x : Traced α} {y : Traced β} (h : Akin E plans R x y) :
    Akin E plans (EndAlike E R) x.attempt y.attempt :=
  ⟨h.trace, .ok h.outcome⟩

theorem rescue {x : Traced α} {y : Traced β} {f : Failure → Traced α} {g : Failure → Traced β}
    (h : Akin E plans R x y) (hf : ∀ e e', E e e' → Akin E plans R (f e) (g e')) :
    Akin E plans R (x.rescue f) (y.rescue g) := by
  obtain ⟨outcome, effects⟩ := x
  obtain ⟨outcome', effects'⟩ := y
  obtain ⟨trace, ho⟩ := h
  cases ho with
  | ok h => exact ⟨trace, .ok h⟩
  | error h => exact (hf _ _ h).after trace

theorem bound {x : Traced α} {y : Traced β} (fields : Fields) (h : Akin E plans R x y) :
    Akin E plans R (x.bound fields) (y.bound fields) :=
  ⟨h.trace.bound fields, h.outcome⟩

end Akin

end Traced

end Gatehouse
