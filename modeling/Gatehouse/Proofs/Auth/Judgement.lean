import Gatehouse.Proofs.Auth.Chain
import Gatehouse.Proofs.Auth.Lookup

/-! # What a chain of filters comes to

`Filter.LetThrough` says that filters let a request through one after the other, each on the context
that the ones before it have left; `Filter.EndedBy` says that filters do so and that the next one
then ends the request. Every chain does one or the other (`Filter.letThrough_or_endedBy`), and what
it comes to follows: its outcome, its trace and the context that it leaves (`judge_of_letThrough`,
`judge_of_endedBy`). In particular nothing that comes after the filter that ends the request makes
a difference.

Of the filters of the gateway, four look at the context and leave it alone, and whether they let it
through does not depend on what else is in the chain. The fifth puts the user of the bearer
credential onto it. Main statement: `chains_compose`. -/

namespace Gatehouse

open Traced

namespace Filter

variable {filters before after rest : List Filter} {f : Filter} {ctx next last : Context}
  {effects passed : List Effect} {e : Failure}

/-- The filters let the request through, leave `effects` behind and the context as `last`. -/
inductive LetThrough : List Filter → Context → List Effect → Context → Prop
  | nil (ctx : Context) : LetThrough [] ctx [] ctx
  | cons {f : Filter} {rest : List Filter} {ctx next last : Context}
    {effects effects' : List Effect} (first : f ctx = ⟨.ok next, effects⟩)
    (others : LetThrough rest next effects' last) :
    LetThrough (f :: rest) ctx (effects ++ effects') last

/-- The filters before `f` let the request through and leave the context as `last`, on which `f`
ends it with `e`. -/
def EndedBy (before : List Filter) (f : Filter) (ctx last : Context) (e : Failure)
    (effects : List Effect) : Prop :=
  ∃ passed ended, effects = passed ++ ended ∧ LetThrough before ctx passed last ∧
    f last = ⟨.error e, ended⟩

/-! ### One filter and the rest -/

theorem judge_cons_of_ok (h : f ctx = ⟨.ok next, effects⟩) (rest : List Filter) :
    judge (f :: rest) ctx =
      ⟨(judge rest next).outcome.map fun j => { j with evaluated := j.evaluated + 1 },
        effects ++ (judge rest next).effects⟩ := by
  rw [judge, h]
  show andThen _ _ = _
  simp only [attempt, andThen, bind]
  cases (judge rest next).outcome with
  | error e => rfl
  | ok j => simp [pure, succeed, Except.map]

theorem judge_cons_of_error (h : f ctx = ⟨.error e, effects⟩) (rest : List Filter) :
    judge (f :: rest) ctx = ⟨.ok ⟨ctx, 1, some e⟩, effects⟩ := by
  rw [judge, h]
  show andThen _ _ = _
  simp [attempt, andThen, pure, succeed]

/-- The filters that let the request through are evaluated, and then the others. -/
theorem judge_append_of_letThrough (h : LetThrough before ctx passed last) (after : List Filter) :
    judge (before ++ after) ctx =
      ⟨(judge after last).outcome.map
          fun j => { j with evaluated := before.length + j.evaluated },
        passed ++ (judge after last).effects⟩ := by
  induction h with
  | nil ctx =>
    simp only [List.nil_append, List.length_nil, Nat.zero_add]
    cases hj : (judge after ctx).outcome <;> simp [← hj, Except.map]
  | @cons f rest ctx next last effects effects' first _ ih =>
    rw [List.cons_append, judge_cons_of_ok first, ih]
    simp only [List.append_assoc, List.length_cons]
    congr 1
    cases (judge after last).outcome with
    | error e => rfl
    | ok j =>
      simp only [Except.map]
      congr 2
      omega

theorem judge_of_letThrough (h : LetThrough filters ctx effects last) :
    judge filters ctx = ⟨.ok ⟨last, filters.length, none⟩, effects⟩ := by
  have hall := judge_append_of_letThrough h []
  rw [List.append_nil] at hall
  rw [hall]
  simp [judge, succeed, Except.map]

/-- The filters after the one that ends the request are not evaluated. -/
theorem judge_of_endedBy (h : EndedBy before f ctx last e effects) (after : List Filter) :
    judge (before ++ f :: after) ctx = ⟨.ok ⟨last, before.length + 1, some e⟩, effects⟩ := by
  obtain ⟨passed, ended, rfl, hbefore, hf⟩ := h
  rw [judge_append_of_letThrough hbefore, judge_cons_of_error hf]
  rfl

/-- A chain lets the request through, or one of its filters ends it. -/
theorem letThrough_or_endedBy (filters : List Filter) (ctx : Context) :
    (∃ effects last, LetThrough filters ctx effects last) ∨
      ∃ before f after last e effects, filters = before ++ f :: after ∧
        EndedBy before f ctx last e effects := by
  induction filters generalizing ctx with
  | nil => exact .inl ⟨[], ctx, .nil ctx⟩
  | cons f rest ih =>
    rcases hf : f ctx with ⟨outcome, ended⟩
    cases outcome with
    | error e => exact .inr ⟨[], f, rest, ctx, e, ended, rfl, [], ended, rfl, .nil ctx, hf⟩
    | ok next =>
      rcases ih next with ⟨effects, last, h⟩ | ⟨before, g, after, last, e, effects, rfl, h⟩
      · exact .inl ⟨_, last, .cons hf h⟩
      · obtain ⟨passed, ended', rfl, hbefore, hg⟩ := h
        exact .inr ⟨f :: before, g, after, last, e, ended ++ (passed ++ ended'), rfl,
          ended ++ passed, ended', by rw [List.append_assoc], .cons hf hbefore, hg⟩

/-! ### Chains -/

theorem chain_of_letThrough (h : LetThrough filters ctx effects last) :
    chain filters ctx = ⟨.ok last, effects⟩ := by
  unfold chain
  rw [judge_of_letThrough h]
  show andThen _ _ = _
  simp [andThen, pure, succeed]

theorem chain_of_endedBy (h : EndedBy before f ctx last e effects) (after : List Filter) :
    chain (before ++ f :: after) ctx = ⟨.error e, effects⟩ := by
  unfold chain
  rw [judge_of_endedBy h]
  show andThen _ _ = _
  simp [andThen, Traced.fail]

/-- A chain gives the context back if and only if each of its filters lets the request through on
the context left by those before it. -/
theorem chain_eq_ok_iff :
    chain filters ctx = ⟨.ok last, effects⟩ ↔ LetThrough filters ctx effects last := by
  refine ⟨fun h => ?_, chain_of_letThrough⟩
  rcases letThrough_or_endedBy filters ctx with
    ⟨effects', last', hthrough⟩ | ⟨before, f, after, last', e, effects', rfl, hended⟩
  · rw [chain_of_letThrough hthrough] at h
    cases h
    exact hthrough
  · rw [chain_of_endedBy hended] at h
    cases h

/-- Otherwise it ends with the failure of the first filter that does not. -/
theorem chain_eq_error_iff :
    chain filters ctx = ⟨.error e, effects⟩ ↔
      ∃ before f after last, filters = before ++ f :: after ∧
        EndedBy before f ctx last e effects := by
  constructor
  · intro h
    rcases letThrough_or_endedBy filters ctx with
      ⟨effects', last, hthrough⟩ | ⟨before, f, after, last, e', effects', rfl, hended⟩
    · rw [chain_of_letThrough hthrough] at h
      cases h
    · rw [chain_of_endedBy hended] at h
      cases h
      exact ⟨before, f, after, last, rfl, hended⟩
  · rintro ⟨before, f, after, last, rfl, h⟩
    exact chain_of_endedBy h after

/-- The filters of two lists are judged one list after the other. -/
theorem judge_append (before after : List Filter) (ctx : Context) :
    judge (before ++ after) ctx = do
      let j ← judge before ctx
      if j.rejection.isSome then return j
      else
        let k ← judge after j.context
        return { k with evaluated := j.evaluated + k.evaluated } := by
  rcases letThrough_or_endedBy before ctx with
    ⟨effects, last, hthrough⟩ | ⟨front, f, back, last, e, effects, rfl, hended⟩
  · rw [judge_append_of_letThrough hthrough, judge_of_letThrough hthrough]
    show _ = andThen _ _
    simp only [andThen, Option.isSome_none, Bool.false_eq_true, if_false, bind]
    cases (judge after last).outcome <;> simp [Except.map, pure, succeed]
  · rw [List.append_assoc, List.cons_append, judge_of_endedBy hended, judge_of_endedBy hended]
    show _ = andThen _ _
    simp [andThen, pure, succeed]

theorem chain_append (before after : List Filter) (ctx : Context) :
    chain (before ++ after) ctx = chain before ctx >>= chain after := by
  rcases letThrough_or_endedBy before ctx with
    ⟨effects, last, hthrough⟩ | ⟨front, f, back, last, e, effects, rfl, hended⟩
  · have hjudge := judge_append_of_letThrough hthrough after
    rw [chain_of_letThrough hthrough]
    unfold chain
    rw [hjudge]
    show andThen _ _ = andThen _ _
    simp only [andThen, bind]
    cases (judge after last).outcome with
    | error e => rfl
    | ok j => simp [Except.map]
  · rw [List.append_assoc, List.cons_append, chain_of_endedBy hended, chain_of_endedBy hended]
    rfl

end Filter

/-! ### The filters of the gateway -/

section checks

open Gatehouse.Filter

variable {check : Check} {checks : List Check} {ctx next last : Context} {effects : List Effect}

/-- Who is asked for by the bearer credential does not depend on the user who is known already. -/
theorem Context.keyed_withUser {row : UserRow} (user : Option Principal) :
    Context.Keyed { ctx with user } row ↔ ctx.Keyed row :=
  ⟨fun h => ⟨h.site, h.credential, h.present, h.row⟩,
    fun h => ⟨h.site, h.credential, h.present, h.row⟩⟩

/-- All filters but one leave the context alone, and no trace if they let the request through. -/
theorem filter_of_ok (hc : check ≠ .keyAuth) (h : (check.filter ctx).outcome = .ok next) :
    check.filter ctx = .succeed ctx := by
  have passIf {ok : Bool} {rejection : Failure}
      (h : (Check.passIf ok rejection ctx).outcome = .ok next) :
      Check.passIf ok rejection ctx = .succeed ctx := by
    cases ok with
    | true => rfl
    | false => cases h
  cases check with
  | loggedIn => exact passIf h
  | loggedInOrPublic => exact passIf h
  | noSubSites =>
    change (Check.refuseChild ctx).outcome = _ at h
    show Check.refuseChild ctx = _
    unfold Check.refuseChild at h ⊢
    split at h
    · rfl
    · split at h
      · cases h
      · rw [if_neg (by assumption)]
  | adminOnly => exact passIf h
  | keyAuth => exact absurd rfl hc

theorem keyAuth_of_ok (h : (Check.keyAuth.filter ctx).outcome = .ok next) :
    ∃ row, ctx.Keyed row ∧ next = { ctx with user := some (.ofRow row) } := by
  obtain ⟨user, huser, hnext⟩ := outcome_bind_ok.1 h
  obtain ⟨row, hrow, rfl⟩ := Principal.ofApiToken_ok huser
  exact ⟨row, hrow, (Except.ok.inj hnext).symm⟩

/-- A filter ends a request with an error of the gateway's, unless the query for the API token has
failed in a way that no query is expected to. -/
theorem filter_error {e : Failure} (h : (check.filter ctx).outcome = .error e) :
    (∃ g, e = .gateway g) ∨ check = .keyAuth ∧ ∃ site, ctx.site = some site ∧
      (ctx.store.userByToken (ctx.credential.getD "") site.id).outcome = .error e ∧
      e.isDatabase = false := by
  have passIf {ok : Bool} {g : GatewayError}
      (h : (Check.passIf ok (.gateway g) ctx).outcome = .error e) : ∃ g, e = .gateway g := by
    cases ok with
    | true => cases h
    | false => exact ⟨g, (Except.error.inj h).symm⟩
  cases check with
  | loggedIn => exact .inl (passIf h)
  | loggedInOrPublic => exact .inl (passIf h)
  | noSubSites =>
    change (Check.refuseChild ctx).outcome = _ at h
    unfold Check.refuseChild at h
    split at h
    · cases h
    · split at h
      · exact .inl ⟨_, (Except.error.inj h).symm⟩
      · cases h
  | adminOnly => exact .inl (passIf h)
  | keyAuth =>
    change (Check.authenticate ctx).outcome = _ at h
    unfold Check.authenticate at h
    rw [outcome_bind] at h
    cases hp : (Principal.ofApiToken ctx (ctx.credential.getD "")).outcome with
    | ok p =>
      rw [hp] at h
      cases h
    | error e' =>
      rw [hp] at h
      obtain rfl : e' = e := Except.error.inj h
      exact (Principal.ofApiToken_error hp).imp_right fun hfail => ⟨rfl, hfail⟩

/-- The context is left as it was, but for the user if `keyAuth` was among the filters. -/
theorem context_of_letThrough (h : LetThrough (checks.map Check.filter) ctx effects last) :
    (.keyAuth ∉ checks → last = ctx) ∧
      (.keyAuth ∈ checks →
        ∃ row, ctx.Keyed row ∧ last = { ctx with user := some (.ofRow row) }) := by
  induction checks generalizing ctx effects with
  | nil =>
    cases h
    simp
  | cons check rest ih =>
    cases h with
    | @cons _ _ _ next _ _ _ first others =>
      obtain ⟨hwithout, hwith⟩ := ih others
      have hfirst : (check.filter ctx).outcome = .ok next := congrArg Traced.outcome first
      by_cases hc : check = .keyAuth
      · subst hc
        obtain ⟨row, hrow, rfl⟩ := keyAuth_of_ok hfirst
        refine ⟨fun hnot => absurd List.mem_cons_self hnot, fun _ => ?_⟩
        by_cases hr : Check.keyAuth ∈ rest
        · obtain ⟨row', hrow', hlast⟩ := hwith hr
          exact ⟨row', (Context.keyed_withUser _).1 hrow', hlast⟩
        · exact ⟨row, hrow, hwithout hr⟩
      · obtain rfl : next = ctx := by
          rw [filter_of_ok hc hfirst] at first
          cases first
          rfl
        have hmem : Check.keyAuth ∈ check :: rest ↔ Check.keyAuth ∈ rest := by
          simp [Ne.symm hc]
        rw [hmem]
        exact ⟨hwithout, hwith⟩

/-- Whatever a chain comes to, it leaves the context alone but for the user. -/
theorem judge_frame {j : Judgement}
    (h : judge (checks.map Check.filter) ctx = ⟨.ok j, effects⟩) : ctx.SameButUser j.context := by
  have through {checks : List Check} {passed : List Effect} {last : Context}
      (h : LetThrough (checks.map Check.filter) ctx passed last) : ctx.SameButUser last := by
    obtain ⟨hwithout, hwith⟩ := context_of_letThrough h
    by_cases hc : Check.keyAuth ∈ checks
    · obtain ⟨row, -, rfl⟩ := hwith hc
      exact ⟨_, rfl⟩
    · rw [hwithout hc]
      exact .refl ctx
  rcases letThrough_or_endedBy (checks.map Check.filter) ctx with
    ⟨effects', last, hthrough⟩ | ⟨before, f, after, last, e, effects', hsplit, hended⟩
  · rw [judge_of_letThrough hthrough] at h
    cases h
    exact through hthrough
  · rw [hsplit, judge_of_endedBy hended] at h
    cases h
    obtain ⟨front, back, -, rfl, -⟩ := List.map_eq_append_iff.1 hsplit
    obtain ⟨passed, ended, -, hbefore, -⟩ := hended
    exact through hbefore

/-- Without `keyAuth` a chain comes to what one of its filters comes to by itself: it lets the
request through if all of them do, and else does what one of them does that does not. -/
theorem chain_without_keyAuth (ctx : Context) (hc : .keyAuth ∉ checks) :
    ((∀ check ∈ checks, check.filter ctx = .succeed ctx) ∧
      chain (checks.map Check.filter) ctx = .succeed ctx) ∨
    ∃ check ∈ checks, ∃ e, (check.filter ctx).outcome = .error e ∧
      chain (checks.map Check.filter) ctx = check.filter ctx := by
  induction checks with
  | nil => exact .inl ⟨by simp, rfl⟩
  | cons check rest ih =>
    obtain ⟨hcheck, hrest⟩ := not_or.1 (mt List.mem_cons.2 hc)
    rcases hf : check.filter ctx with ⟨outcome, passed⟩
    cases outcome with
    | error e =>
      refine .inr ⟨check, List.mem_cons_self, e, by rw [hf], ?_⟩
      rw [hf]
      have hended : EndedBy [] check.filter ctx ctx e passed := ⟨[], passed, rfl, .nil ctx, hf⟩
      exact chain_of_endedBy hended _
    | ok next =>
      have hpass := filter_of_ok (Ne.symm hcheck) (congrArg Traced.outcome hf)
      have hchain : chain ((check :: rest).map Check.filter) ctx =
          chain (rest.map Check.filter) ctx := by
        have happend := chain_append [check.filter] (rest.map Check.filter) ctx
        rw [chain_of_letThrough (.cons hpass (.nil ctx))] at happend
        exact happend
      rw [hchain]
      rcases ih hrest with ⟨hall, h⟩ | ⟨other, hother, h⟩
      · exact .inl ⟨List.forall_mem_cons.2 ⟨hpass, hall⟩, h⟩
      · exact .inr ⟨other, List.mem_cons_of_mem _ hother, h⟩

/-- Without `keyAuth` a request passes if and only if each filter lets it through by itself. -/
theorem passes_without_keyAuth (hc : .keyAuth ∉ checks) :
    Passes checks ctx ↔ ∀ check ∈ checks, check.filter ctx = .succeed ctx := by
  unfold Passes
  rcases chain_without_keyAuth ctx hc with ⟨hall, h⟩ | ⟨check, hmem, e, he, h⟩
  · exact iff_of_true ⟨ctx, by rw [h]; rfl⟩ hall
  · refine iff_of_false ?_ fun hall => ?_
    · rintro ⟨out, hout⟩
      rw [h, he] at hout
      cases hout
    · rw [hall check hmem] at he
      cases he

/-- **Chains of filters compose.** A chain gives a context back if and only if its filters let the
request through one after the other; otherwise it ends with the failure of the first that does not,
which leaves the context as the ones before it have, and the ones after it are not evaluated. Two
lists of filters come to what the second comes to after the first. The filters of the gateway end a
request with an error of the gateway's, but for a query that fails as no query is expected to; they
change nothing on a context but the user, and that only if `keyAuth` lets the request through, to
the one user who has the bearer credential and belongs to the site. Without `keyAuth` it makes no
difference to who passes in which order and how often the filters stand: a chain that does not let
a request through does what one of its filters does by itself. -/
theorem chains_compose (ctx : Context) :
    (∀ filters effects last,
      chain filters ctx = ⟨.ok last, effects⟩ ↔ LetThrough filters ctx effects last) ∧
    (∀ filters effects e,
      chain filters ctx = ⟨.error e, effects⟩ ↔
        ∃ before f after last, filters = before ++ f :: after ∧
          EndedBy before f ctx last e effects) ∧
    (∀ filters effects last, LetThrough filters ctx effects last →
      judge filters ctx = ⟨.ok ⟨last, filters.length, none⟩, effects⟩) ∧
    (∀ before f after last e effects, EndedBy before f ctx last e effects →
      judge (before ++ f :: after) ctx = ⟨.ok ⟨last, before.length + 1, some e⟩, effects⟩) ∧
    (∀ before after,
      chain (before ++ after) ctx = chain before ctx >>= chain after ∧
      judge (before ++ after) ctx = do
        let j ← judge before ctx
        if j.rejection.isSome then return j
        else
          let k ← judge after j.context
          return { k with evaluated := j.evaluated + k.evaluated }) ∧
    (∀ (check : Check) e, (check.filter ctx).outcome = .error e →
      (∃ g, e = .gateway g) ∨ check = .keyAuth ∧ ∃ site, ctx.site = some site ∧
        (ctx.store.userByToken (ctx.credential.getD "") site.id).outcome = .error e ∧
        e.isDatabase = false) ∧
    (∀ (checks : List Check) j effects,
      judge (checks.map Check.filter) ctx = ⟨.ok j, effects⟩ → ctx.SameButUser j.context) ∧
    (∀ (checks : List Check) effects last,
      LetThrough (checks.map Check.filter) ctx effects last →
      (.keyAuth ∉ checks → last = ctx) ∧
      (.keyAuth ∈ checks → ∃ row, ctx.Keyed row ∧ (∀ other, ctx.Keyed other → other = row) ∧
        last = { ctx with user := some (.ofRow row) })) ∧
    ∀ checks checks' : List Check, .keyAuth ∉ checks →
      (∀ check, check ∈ checks' ↔ check ∈ checks) →
      (Passes checks' ctx ↔ Passes checks ctx) ∧
      (Passes checks ctx → chain (checks'.map Check.filter) ctx = .succeed ctx) ∧
      (¬Passes checks ctx →
        ∃ check ∈ checks, chain (checks'.map Check.filter) ctx = check.filter ctx) := by
  refine ⟨fun _ _ _ => chain_eq_ok_iff, fun _ _ _ => chain_eq_error_iff,
    fun _ _ _ => judge_of_letThrough, fun _ _ after _ _ _ h => judge_of_endedBy h after,
    fun before after => ⟨chain_append before after ctx, judge_append before after ctx⟩,
    fun _ _ => filter_error, fun _ _ _ => judge_frame, ?user, ?order⟩
  case user =>
    intro checks effects last h
    obtain ⟨hwithout, hwith⟩ := context_of_letThrough h
    refine ⟨hwithout, fun hc => ?_⟩
    obtain ⟨row, hrow, hlast⟩ := hwith hc
    exact ⟨row, hrow, fun other hother => hother.unique hrow, hlast⟩
  case order =>
    intro checks checks' hc hsame
    have hc' : Check.keyAuth ∉ checks' := mt (hsame _).1 hc
    have hpasses : Passes checks' ctx ↔ Passes checks ctx := by
      rw [passes_without_keyAuth hc, passes_without_keyAuth hc']
      exact forall_congr' fun check => imp_congr_left (hsame check)
    refine ⟨hpasses, fun h => ?_, fun h => ?_⟩
    · rcases chain_without_keyAuth ctx hc' with ⟨-, h'⟩ | ⟨check, -, e, he, h'⟩
      · exact h'
      · obtain ⟨out, hout⟩ := hpasses.2 h
        rw [h', he] at hout
        cases hout
    · rcases chain_without_keyAuth ctx hc' with ⟨-, h'⟩ | ⟨check, hmem, e, he, h'⟩
      · exact absurd (hpasses.1 ⟨ctx, by rw [h']; rfl⟩) h
      · exact ⟨check, (hsame check).1 hmem, h'⟩

/-- The owner of a token is let in and then refused, because the site is no administration site. The
last filter is not evaluated, which would have logged that the site is a child. -/
theorem owner_refused :
    let users : Users := ⟨[⟨10, 1, "a@acme.com", some "t"⟩, ⟨11, 1, "b@acme.com", none⟩],
      by decide, by decide⟩
    let store : Store := ⟨⟨none, some users⟩, fun _ => none, fun _ => [], none⟩
    let site : Tenant := ⟨1, "acme", none, some 3, false, false⟩
    let ctx : Context := ⟨store, .initial, .infinite false, false, some site, none, some "t"⟩
    let owner : UserRow := ⟨10, 1, "a@acme.com", some "t"⟩
    let known : Context := { ctx with user := some (.ofRow owner) }
    let refused : Failure := .gateway (.notAdmin "")
    let checks : List Check := [.keyAuth, .loggedIn, .adminOnly, .noSubSites]
    chain (checks.map Check.filter) ctx = ⟨.error refused, []⟩ ∧
      judge (checks.map Check.filter) ctx = ⟨.ok ⟨known, 3, some refused⟩, []⟩ ∧
      ctx.SameButUser known ∧
      (∃ row, ctx.Keyed row ∧ known = { ctx with user := some (.ofRow row) }) ∧
      ¬Passes [.noSubSites, .adminOnly, .noSubSites] ctx := by
  intro users store site ctx owner known refused checks
  obtain ⟨-, herror, -, hended, -, -, hframe, huser, horder⟩ := chains_compose ctx
  have hkey : Check.keyAuth.filter ctx = ⟨.ok known, []⟩ := rfl
  have hsigned : Check.loggedIn.filter known = ⟨.ok known, []⟩ := rfl
  have hthrough : LetThrough ([Check.keyAuth, .loggedIn].map Check.filter) ctx [] known :=
    LetThrough.cons hkey (LetThrough.cons hsigned (.nil known))
  have hrefused : EndedBy ([Check.keyAuth, .loggedIn].map Check.filter) Check.adminOnly.filter
      ctx known refused [] := ⟨[], [], rfl, hthrough, rfl⟩
  have hjudge := hended _ _ [Check.noSubSites.filter] _ _ _ hrefused
  obtain ⟨row, hrow, -, hknown⟩ := (huser [.keyAuth, .loggedIn] [] known hthrough).2 (by decide)
  obtain ⟨hpasses, -, -⟩ := horder [.adminOnly, .noSubSites] [.noSubSites, .adminOnly, .noSubSites]
    (by decide) (by simp)
  refine ⟨(herror _ _ _).2 ⟨_, _, _, _, rfl, hrefused⟩, hjudge, hframe checks _ _ hjudge,
    ⟨row, hrow, hknown⟩, fun h => ?_⟩
  obtain ⟨out, hout⟩ := hpasses.1 h
  cases hout

end checks

end Gatehouse
