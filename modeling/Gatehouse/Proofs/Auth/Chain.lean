import Gatehouse.Auth.Caller
import Gatehouse.Auth.Filter
import Gatehouse.Proofs.Traced

/-! # Chains of filters

A chain asks its first filter and then the others, on the context that the first has left
(`outcome_chain_cons`); so the filters of two lists are asked one list after the other
(`outcome_chain_append`). Neither the filters of the gateway nor what a request says about its
caller touch anything on the context but the user and the credential (`chain_frame`,
`identify_frame`). -/

namespace Gatehouse

open Traced

theorem outcome_chain_cons (f : Filter) (rest : List Filter) (ctx : Context) :
    (Filter.chain (f :: rest) ctx).outcome =
      (f ctx).outcome.bind fun ctx => (Filter.chain rest ctx).outcome := by
  unfold Filter.chain
  rw [outcome_bind, Filter.judge, outcome_bind]
  simp only [Traced.attempt, Except.bind]
  cases (f ctx).outcome with
  | error e => rfl
  | ok ctx' =>
    dsimp only
    rw [outcome_bind, outcome_bind]
    cases (Filter.judge rest ctx').outcome with
    | error e => rfl
    | ok j => rfl

theorem outcome_chain_append (before after : List Filter) (ctx : Context) :
    (Filter.chain (before ++ after) ctx).outcome =
      (Filter.chain before ctx).outcome.bind fun ctx => (Filter.chain after ctx).outcome := by
  induction before generalizing ctx with
  | nil => rfl
  | cons f rest ih =>
    rw [List.cons_append, outcome_chain_cons, outcome_chain_cons]
    cases (f ctx).outcome with
    | error e => rfl
    | ok ctx' => exact ih ctx'

/-! ### Who is let through -/

/-- Every filter lets the request through. -/
def Passes (checks : List Check) (ctx : Context) : Prop :=
  ∃ out, (Filter.chain (checks.map Check.filter) ctx).outcome = .ok out

theorem passes_nil (ctx : Context) : Passes [] ctx := ⟨ctx, rfl⟩

/-- Filters are asked in order, each with the context that the one before has left. -/
theorem passes_cons {check : Check} {rest : List Check} {ctx : Context} :
    Passes (check :: rest) ctx ↔
      ∃ ctx', (check.filter ctx).outcome = .ok ctx' ∧ Passes rest ctx' := by
  unfold Passes
  rw [List.map_cons, outcome_chain_cons]
  cases (check.filter ctx).outcome with
  | error e => simp [Except.bind]
  | ok ctx' => simp [Except.bind]

/-! ### What is left alone -/

/-- The contexts differ in the user at most. -/
def Context.SameButUser (ctx ctx' : Context) : Prop := ∃ user, ctx' = { ctx with user }

theorem Context.SameButUser.refl (ctx : Context) : ctx.SameButUser ctx := ⟨ctx.user, rfl⟩

theorem Context.SameButUser.trans {a b c : Context} (h : a.SameButUser b) (h' : b.SameButUser c) :
    a.SameButUser c := by
  obtain ⟨user, rfl⟩ := h
  obtain ⟨user', rfl⟩ := h'
  exact ⟨user', rfl⟩

theorem filter_frame {check : Check} {ctx ctx' : Context}
    (h : (check.filter ctx).outcome = .ok ctx') : ctx.SameButUser ctx' := by
  have passIf {ok : Bool} {rejection : Failure}
      (h : (Check.passIf ok rejection ctx).outcome = .ok ctx') : ctx.SameButUser ctx' := by
    cases ok with
    | true =>
      obtain rfl := Except.ok.inj h
      exact .refl ctx
    | false => cases h
  cases check with
  | noSubSites =>
    replace h : (Check.refuseChild ctx).outcome = .ok ctx' := h
    unfold Check.refuseChild at h
    split at h
    · obtain rfl := Except.ok.inj h
      exact .refl ctx
    · split at h
      · cases h
      · obtain rfl := Except.ok.inj h
        exact .refl ctx
  | keyAuth =>
    obtain ⟨user, -, huser⟩ := outcome_bind_ok.1 h
    exact ⟨some user, (Except.ok.inj huser).symm⟩
  | loggedIn => exact passIf h
  | loggedInOrPublic => exact passIf h
  | adminOnly => exact passIf h

theorem chain_frame {checks : List Check} {ctx ctx' : Context}
    (h : (Filter.chain (checks.map Check.filter) ctx).outcome = .ok ctx') :
    ctx.SameButUser ctx' := by
  induction checks generalizing ctx with
  | nil =>
    obtain rfl := Except.ok.inj h
    exact .refl ctx
  | cons check rest ih =>
    rw [List.map_cons, outcome_chain_cons] at h
    cases hf : (check.filter ctx).outcome with
    | error e =>
      rw [hf] at h
      cases h
    | ok next =>
      rw [hf] at h
      exact (filter_frame hf).trans (ih h)

theorem identify_frame {ctx ctx' : Context} {now : Reading} {bearer : Option String}
    {cookies : List String} (h : (ctx.identify now bearer cookies).outcome = .ok ctx') :
    (ctx.withBearer bearer).SameButUser ctx' := by
  unfold Context.identify at h
  dsimp only at h
  split at h
  · obtain ⟨user, -, huser⟩ := outcome_bind_ok.1 h
    exact ⟨user, (Except.ok.inj huser).symm⟩
  · obtain rfl := Except.ok.inj h
    exact .refl _

theorem Context.SameButUser.site {ctx ctx' : Context} (h : ctx.SameButUser ctx') :
    ctx'.site = ctx.site := by
  obtain ⟨user, rfl⟩ := h
  rfl

theorem site_of_identify {ctx ctx' : Context} {now : Reading} {bearer : Option String}
    {cookies : List String} (h : (ctx.identify now bearer cookies).outcome = .ok ctx') :
    ctx'.site = ctx.site := by
  rw [(identify_frame h).site]
  unfold Context.withBearer
  split
  · rfl
  · split <;> rfl

end Gatehouse
