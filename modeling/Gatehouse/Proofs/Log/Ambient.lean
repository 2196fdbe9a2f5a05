import Mathlib.Data.List.Nodup
import Mathlib.Logic.Function.Basic
import Gatehouse.Log.Line

/-! # The ambient fields of the log

Fields are bound to the task that is running, and every event that the task logs gets them. A task
that is started gets a copy of what is bound to the task that starts it; from then on each has its
own. A `Journal` is what some tasks do to the log, `Bindings.logged` the events that come of it and
`Bindings.after` what is bound in the end.

Fields that are bound one after the other are bound to an event as if they had been bound at once
(`Event.bind_bind`). An event that says nothing else under a bound name carries the bound value
(`Event.carries_bind`). -/

namespace Gatehouse

/-! ### Bound fields -/

namespace Fields

def names (fields : Fields) : List String := fields.map Prod.fst

/-- Fields bound above others, which stay where the names differ. -/
def above (fields old : Fields) : Fields :=
  fields ++ old.filter fun f => !fields.any fun g => g.1 == f.1

theorem above_nil (fields : Fields) : fields.above [] = fields := List.append_nil fields

theorem nil_above (old : Fields) : Fields.above [] old = old := List.filter_eq_self.2 fun _ _ => rfl

end Fields

namespace Event

theorem bind_nil (e : Event) : e.bind [] = e := by
  unfold bind
  rw [List.filter_nil, List.append_nil]

theorem has_bind (e : Event) (fields : Fields) (name : String) :
    (e.bind fields).has name = (e.has name || fields.any fun g => g.1 == name) := by
  show (e.fields ++ fields.filter fun g => !e.has g.1).any (fun f => f.1 == name) = _
  rw [List.any_append, List.any_filter]
  show (e.has name || fields.any fun g => !e.has g.1 && g.1 == name) = _
  cases h : e.has name with
  | true => rw [Bool.true_or, Bool.true_or]
  | false =>
    rw [Bool.false_or, Bool.false_or]
    congr 1
    funext g
    by_cases hg : g.1 = name
    · rw [hg, h]
      rfl
    · rw [beq_false_of_ne hg, Bool.and_false]

/-- Fields that are bound one after the other. -/
theorem bind_bind (e : Event) (fields old : Fields) :
    (e.bind fields).bind old = e.bind (fields.above old) := by
  have hleft : old.filter (fun f => !(e.bind fields).has f.1) =
      (old.filter fun f => !fields.any fun g => g.1 == f.1).filter fun f => !e.has f.1 := by
    rw [List.filter_filter]
    refine List.filter_congr fun f _ => ?_
    rw [has_bind, Bool.not_or]
  show (⟨e.level, e.source, e.name, (e.bind fields).fields ++ _⟩ : Event) = _
  rw [hleft]
  simp only [bind, Fields.above, List.filter_append, List.append_assoc]

/-- The event has a field of the name, and whatever it has under the name is this value. -/
def Carries (e : Event) (name : String) (v : Json) : Prop := ∀ w, (name, w) ∈ e.fields ↔ w = v

/-- The event has no field of the name. -/
def Lacks (e : Event) (name : String) : Prop := ∀ w, (name, w) ∉ e.fields

/-- The event says nothing else under the names of the fields. -/
def Agrees (e : Event) (fields : Fields) : Prop := ∀ f ∈ e.fields, ∀ g ∈ fields, f.1 = g.1 → f = g

theorem has_eq_false {e : Event} {name : String} : e.has name = false ↔ e.Lacks name := by
  unfold has Lacks
  rw [List.any_eq_false]
  constructor
  · intro h w hw
    exact h _ hw (beq_self_eq_true name)
  · intro h f hf hname
    exact h f.2 (eq_of_beq hname ▸ hf)

/-- What an event says under a name counts more than what is bound. -/
theorem Carries.bind {e : Event} {name : String} {v : Json} (h : e.Carries name v)
    (fields : Fields) : (e.bind fields).Carries name v := by
  intro w
  rw [← h w]
  refine ⟨fun hw => ?_, List.mem_append_left _⟩
  rcases List.mem_append.1 hw with hw | hw
  · exact hw
  · have hlacks := has_eq_false.1 (Bool.not_eq_true' _ ▸ (List.mem_filter.1 hw).2)
    exact absurd ((h v).2 rfl) (hlacks v)

theorem carries_bind {e : Event} {fields : Fields} (hn : fields.names.Nodup) (ha : e.Agrees fields)
    {name : String} {v : Json} (h : (name, v) ∈ fields) : (e.bind fields).Carries name v := by
  intro w
  constructor
  · intro hw
    rcases List.mem_append.1 hw with hw | hw
    · exact congrArg Prod.snd (ha _ hw _ h rfl)
    · have hfield := List.inj_on_of_nodup_map hn (List.mem_filter.1 hw).1 h rfl
      exact congrArg Prod.snd hfield
  · rintro rfl
    cases hhas : e.has name with
    | true =>
      obtain ⟨f, hf, hname⟩ := List.any_eq_true.1 hhas
      obtain rfl : f = (name, w) := ha f hf _ h (eq_of_beq hname)
      exact List.mem_append_left _ hf
    | false => exact List.mem_append_right _ (List.mem_filter.2 ⟨h, by rw [hhas]; rfl⟩)

theorem Lacks.bind {e : Event} {name : String} (h : e.Lacks name) {fields : Fields}
    (hf : name ∉ fields.names) : (e.bind fields).Lacks name := by
  intro w hw
  rcases List.mem_append.1 hw with hw | hw
  · exact h w hw
  · exact hf (List.mem_map_of_mem (f := Prod.fst) (List.mem_filter.1 hw).1)

end Event

/-! ### Journals -/

/-- The tasks that log: the one that the application is called in, the background run, and the one
that works on the request that is being served. -/
inductive LogTask
  | server
  | background
  | work
  deriving DecidableEq, Repr

inductive LogStep
  | clear
  | bind (fields : Fields)
  | fork (child : LogTask)
  | log (e : Event)

abbrev Journal := List (LogTask × LogStep)

abbrev Bindings := LogTask → Fields

def Journal.events (t : LogTask) (events : List Event) : Journal :=
  events.map fun e => (t, .log e)

namespace Bindings

/-- Nothing is bound yet. -/
def initial : Bindings := fun _ => []

def step (b : Bindings) : LogTask × LogStep → Bindings
  | (t, .clear) => Function.update b t []
  | (t, .bind fields) => Function.update b t (fields.above (b t))
  | (t, .fork child) => Function.update b child (b t)
  | (_, .log _) => b

def after (b : Bindings) (j : Journal) : Bindings := j.foldl step b

def logged : Bindings → Journal → List Event
  | _, [] => []
  | b, (t, .log e) :: rest => e.bind (b t) :: logged b rest
  | b, s :: rest => logged (b.step s) rest

variable (b : Bindings)

theorem after_append (j k : Journal) : b.after (j ++ k) = (b.after j).after k :=
  List.foldl_append

theorem logged_append (j k : Journal) :
    b.logged (j ++ k) = b.logged j ++ (b.after j).logged k := by
  induction j generalizing b with
  | nil => rfl
  | cons s rest ih =>
    obtain ⟨t, step⟩ := s
    cases step with
    | log e => exact congrArg (List.cons _) (ih b)
    | clear => exact ih _
    | bind fields => exact ih _
    | fork child => exact ih _

@[simp]
theorem after_events (t : LogTask) (events : List Event) :
    b.after (Journal.events t events) = b := by
  induction events with
  | nil => rfl
  | cons e rest ih => exact ih

@[simp]
theorem logged_events (t : LogTask) (events : List Event) :
    b.logged (Journal.events t events) = events.map (Event.bind (b t)) := by
  induction events with
  | nil => rfl
  | cons e rest ih => exact congrArg (List.cons _) ih

end Bindings

end Gatehouse
