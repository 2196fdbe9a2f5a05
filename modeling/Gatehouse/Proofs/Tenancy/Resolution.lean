import Gatehouse.Proofs.Store.Users
import Gatehouse.Proofs.Traced
import Gatehouse.Tenancy.Resolution

/-! # Where tenants come from

A host is resolved to a site of the table and to nothing else (`resolve_mem`): what looking for the
host has found by itself, or the only active site. -/

namespace Gatehouse

open Traced

namespace Sites

theorem mem_of_mem_active {t : Sites} {row : SiteRow} (h : row ∈ t.active) : row ∈ t.rows :=
  (List.mem_filter.1 h).1

theorem mem_of_byHost {t : Sites} {host domain : String} {row : SiteRow}
    (h : t.byHost host domain = some row) : row ∈ t.rows := by
  unfold byHost at h
  split at h
  · rename_i row' hfound
    obtain rfl : row' = row := Option.some.inj h
    exact mem_of_mem_active (List.mem_of_find?_eq_some hfound)
  · obtain ⟨code, _, hfound⟩ := Option.bind_eq_some_iff.1 h
    exact mem_of_mem_active (List.mem_of_find?_eq_some hfound)

end Sites

namespace Tenant

variable {st : Store} {t : Sites} {host domain : String} {site : Tenant}

theorem settle_ok {found : Except Failure (Option SiteRow)}
    (h : (settle host found).outcome = .ok site) :
    ∃ row, found = .ok (some row) ∧ site = ofRow row := by
  unfold settle at h
  split at h
  · exact ⟨_, rfl, (Except.ok.inj h).symm⟩
  · cases h
  · obtain ⟨_, _, h⟩ := outcome_bind_ok.1 h
    cases h

/-- The only active site is one of the table. -/
theorem only_mem {row : SiteRow} (ht : st.database.sites = some t)
    (h : (only st).outcome = .ok (some row)) : row ∈ t.rows := by
  obtain ⟨found, hf, h⟩ := outcome_bind_ok.1 h
  obtain rfl : st.activeSites.outcome = found := Except.ok.inj hf
  split at h
  · rename_i row' hrows
    obtain rfl : row' = row := Option.some.inj (Except.ok.inj h)
    obtain ⟨t', ht', hactive⟩ := Store.ask_ok hrows
    rw [Database.sitesTable, ht] at ht'
    obtain rfl : t = t' := Except.ok.inj ht'
    exact Sites.mem_of_mem_active (hactive ▸ List.mem_singleton_self row')
  · cases h
  · split at h
    · obtain ⟨_, _, h⟩ := outcome_bind_ok.1 h
      cases h
    · cases h

theorem resolve_error {prod : Bool} {f : Failure}
    (h : (st.siteByHost host domain).outcome = .error f) (hf : f.isDatabase = false) :
    (resolve st prod host domain).outcome = .error f := by
  unfold resolve
  rw [outcome_bind]
  simp only [Traced.attempt, h, Except.bind, hf]
  rfl

/-- With a fallback, a tenant is the only active site or what looking for the host has found. -/
theorem settleOrOnly_ok {found : Except Failure (Option SiteRow)}
    (h : (settleOrOnly st host found).outcome = .ok site) :
    (∃ row, (only st).outcome = .ok (some row) ∧ site = ofRow row) ∨
      (settle host found).outcome = .ok site := by
  have hsingle : ∃ single, (only st).outcome = .ok single ∧
      (single.elim (settle host found) fun row => .succeed (ofRow row)).outcome = .ok site := by
    unfold settleOrOnly at h
    split at h
    · obtain ⟨_, _, h⟩ := outcome_bind_ok.1 h
      obtain ⟨single, hs, h⟩ := outcome_bind_ok.1 h
      exact ⟨single, hs, by cases single <;> exact h⟩
    · obtain ⟨single, hs, h⟩ := outcome_bind_ok.1 h
      exact ⟨single, hs, by cases single <;> exact h⟩
  obtain ⟨single, hs, h⟩ := hsingle
  cases single with
  | none => exact .inr h
  | some row => exact .inl ⟨row, hs, (Except.ok.inj h).symm⟩

/-- A tenant is a site of the table. -/
theorem resolve_mem {prod : Bool} (ht : st.database.sites = some t)
    (h : (resolve st prod host domain).outcome = .ok site) :
    ∃ row ∈ t.rows, site = ofRow row := by
  have settled : (settle host (st.siteByHost host domain).outcome).outcome = .ok site →
      ∃ row ∈ t.rows, site = ofRow row := by
    intro h
    obtain ⟨row, hfound, hsite⟩ := settle_ok h
    obtain ⟨t', ht', hrow⟩ := Store.ask_ok hfound
    rw [Database.sitesTable, ht] at ht'
    obtain rfl : t = t' := Except.ok.inj ht'
    exact ⟨row, Sites.mem_of_byHost hrow.symm, hsite⟩
  have fallback : (settleOrOnly st host (st.siteByHost host domain).outcome).outcome = .ok site →
      ∃ row ∈ t.rows, site = ofRow row := by
    intro h
    rcases settleOrOnly_ok h with ⟨row, honly, hsite⟩ | h
    · exact ⟨row, only_mem ht honly, hsite⟩
    · exact settled h
  obtain ⟨found, hf, h⟩ := outcome_bind_ok.1 h
  obtain rfl : (st.siteByHost host domain).outcome = found := Except.ok.inj hf
  split at h
  · split at h
    · split at h
      · exact settled h
      · exact fallback h
    · cases h
  · split at h
    · exact settled h
    · exact fallback h

end Tenant

end Gatehouse
