import Gatehouse.Auth.Lookup
import Gatehouse.Proofs.Store.Users
import Gatehouse.Proofs.Traced

/-! # What becomes of a look-up

A query for a user ends a look-up only with an error of the gateway's or with a failure that no
query is expected to have (`ofQuery_error`). The user of an API token is the one row of the table
that has the token and belongs to the site on the context (`ofApiToken_ok`, `Context.Keyed.unique`).
-/

namespace Gatehouse

open Traced

theorem ofQuery_ok {query : Traced (Option UserRow)} {user : Option Principal}
    (h : (Principal.ofQuery query).outcome = .ok user) :
    ∃ row, query.outcome = .ok row ∧ user = row.map Principal.ofRow := by
  obtain ⟨result, hr, h⟩ := outcome_bind_ok.1 h
  obtain rfl : query.outcome = result := Except.ok.inj hr
  cases e : query.outcome with
  | ok row =>
    rw [e] at h
    exact ⟨row, rfl, (Except.ok.inj h).symm⟩
  | error f =>
    rw [e] at h
    dsimp only at h
    split at h
    · obtain ⟨_, _, h⟩ := outcome_bind_ok.1 h
      cases h
    · cases h

theorem outcome_ofQuery {query : Traced (Option UserRow)} {row : Option UserRow}
    (h : query.outcome = .ok row) :
    (Principal.ofQuery query).outcome = .ok (row.map Principal.ofRow) := by
  unfold Principal.ofQuery
  rw [outcome_bind]
  simp only [Traced.attempt, h]
  rfl

theorem outcome_ofQuery_error {query : Traced (Option UserRow)} {f : Failure}
    (h : query.outcome = .error f) (hf : f.isDatabase = false) :
    (Principal.ofQuery query).outcome = .error f := by
  unfold Principal.ofQuery
  rw [outcome_bind]
  simp only [Traced.attempt, h, Except.bind, hf, Bool.false_eq_true, if_false]
  rfl

/-- Any other failure becomes an error of the gateway's. -/
theorem ofQuery_error {query : Traced (Option UserRow)} {f : Failure}
    (h : (Principal.ofQuery query).outcome = .error f) :
    (∃ e, f = .gateway e) ∨ (query.outcome = .error f ∧ f.isDatabase = false) := by
  cases e : query.outcome with
  | ok row =>
    rw [outcome_ofQuery e] at h
    cases h
  | error g =>
    cases hg : g.isDatabase with
    | true =>
      unfold Principal.ofQuery at h
      rw [outcome_bind] at h
      simp only [Traced.attempt, e, Except.bind, hg, if_true, outcome_bind] at h
      exact .inl ⟨_, (Except.error.inj h).symm⟩
    | false =>
      rw [outcome_ofQuery_error e hg] at h
      obtain rfl := Except.error.inj h
      exact .inr ⟨rfl, hg⟩

/-! ### The user of an API token -/

/-- The row has the bearer credential for its API token, and belongs to the site on the context. -/
structure Context.Keyed (ctx : Context) (row : UserRow) : Prop where
  site : ctx.site.map Tenant.id = some row.siteId
  credential : ctx.credential = row.apiToken
  present : ctx.credential.getD "" ≠ ""
  row : ∃ users, ctx.store.database.users = some users ∧ row ∈ users.rows

/-- There is at most one such row. -/
theorem Context.Keyed.unique {ctx : Context} {u v : UserRow} (hu : ctx.Keyed u)
    (hv : ctx.Keyed v) : u = v := by
  obtain ⟨users, hdb, hmem⟩ := hu.row
  obtain ⟨users', hdb', hmem'⟩ := hv.row
  obtain rfl : users = users' := Option.some.inj (hdb.symm.trans hdb')
  have hsome : u.apiToken.isSome := by
    have hpresent := hu.present
    rw [hu.credential] at hpresent
    cases hu : u.apiToken with
    | none => simp [hu] at hpresent
    | some token => rfl
  exact Users.eq_of_clash hmem hmem' ⟨hsome, hu.credential.symm.trans hv.credential⟩

namespace Principal

variable {ctx : Context} {token : String} {p : Principal} {f : Failure}

theorem ofApiToken_ok (h : (ofApiToken ctx (ctx.credential.getD "")).outcome = .ok p) :
    ∃ row, ctx.Keyed row ∧ p = ofRow row := by
  unfold ofApiToken at h
  split at h
  · cases h
  rename_i hpresent
  cases hs : ctx.site with
  | none =>
    rw [hs] at h
    cases h
  | some site =>
    rw [hs] at h
    obtain ⟨user, huser, h⟩ := outcome_bind_ok.1 h
    cases user with
    | none => cases h
    | some q =>
      obtain rfl : q = p := Except.ok.inj h
      obtain ⟨row, hrow, hp⟩ := ofQuery_ok huser
      obtain ⟨t, ht, rfl⟩ := Store.ask_ok hrow
      obtain ⟨u, hu, rfl⟩ := Option.map_eq_some_iff.1 hp.symm
      obtain ⟨hmem, htoken, hsite⟩ := Users.mem_of_byToken hu
      refine ⟨u, ⟨?site, ?credential, by simpa using hpresent, t, Database.usersTable_ok ht, hmem⟩,
        rfl⟩
      case site => rw [hs, Option.map_some, hsite]
      case credential =>
        rw [htoken]
        cases hc : ctx.credential with
        | none => simp [hc] at hpresent
        | some token => rfl

/-- Whatever else an API token comes to is an error of the gateway's. -/
theorem ofApiToken_error (h : (ofApiToken ctx token).outcome = .error f) :
    (∃ e, f = .gateway e) ∨ ∃ site, ctx.site = some site ∧
      (ctx.store.userByToken token site.id).outcome = .error f ∧ f.isDatabase = false := by
  unfold ofApiToken at h
  split at h
  · exact .inl ⟨_, (Except.error.inj h).symm⟩
  cases hs : ctx.site with
  | none =>
    rw [hs] at h
    exact .inl ⟨_, (Except.error.inj h).symm⟩
  | some site =>
    rw [hs] at h
    dsimp only at h
    rw [outcome_bind] at h
    cases hq : (ofQuery (ctx.store.userByToken token site.id)).outcome with
    | ok user =>
      rw [hq] at h
      cases user with
      | none => exact .inl ⟨_, (Except.error.inj h).symm⟩
      | some q => cases h
    | error g =>
      rw [hq] at h
      obtain rfl : g = f := Except.error.inj h
      exact (ofQuery_error hq).imp_right fun hfail => ⟨site, rfl, hfail⟩

end Principal

end Gatehouse
