import Mathlib.Data.List.Pairwise
import Gatehouse.Proofs.Traced
import Gatehouse.Store.Query

/-! # The users of a site

Both questions about users are asked with the id of a site, and their answers come from the rows of
that site alone (`ofSite_eq_find?`, `byToken_eq_find?`). What the rows of other sites hold makes no
difference to them, and neither does what is explained: `Store.SameFor` says of two stores that they
differ at most in these, and then every question has the same answer or failure, and the same plan
if both stores explain the same. -/

namespace Gatehouse

namespace Users

/-- The rows of one site. -/
def rowsOf (t : Users) (siteId : Int) : List UserRow := t.rows.filter fun u => u.siteId == siteId

theorem ofSite_eq_find? (t : Users) (userId siteId : Int) :
    t.ofSite userId siteId = (t.rowsOf siteId).find? fun u => u.id == userId := by
  unfold ofSite rowsOf
  rw [List.find?_filter]
  simp only [Bool.decide_and, Bool.decide_eq_true, Bool.and_comm]

theorem byToken_eq_find? (t : Users) (token : String) (siteId : Int) :
    t.byToken token siteId = (t.rowsOf siteId).find? fun u => u.apiToken == some token := by
  unfold byToken rowsOf
  rw [List.find?_filter]
  simp only [Bool.decide_and, Bool.decide_eq_true, Bool.and_comm]

theorem siteId_of_mem_rowsOf {t : Users} {siteId : Int} {u : UserRow} (h : u ∈ t.rowsOf siteId) :
    u.siteId = siteId := by
  simpa using (List.mem_filter.1 h).2

theorem siteId_of_ofSite {t : Users} {userId siteId : Int} {u : UserRow}
    (h : t.ofSite userId siteId = some u) : u.siteId = siteId := by
  rw [ofSite_eq_find?] at h
  exact siteId_of_mem_rowsOf (List.mem_of_find?_eq_some h)

theorem mem_of_ofSite {t : Users} {userId siteId : Int} {u : UserRow}
    (h : t.ofSite userId siteId = some u) : u ∈ t.rows ∧ u.id = userId ∧ u.siteId = siteId := by
  have hp := List.find?_some h
  simp only [Bool.and_eq_true, beq_iff_eq] at hp
  exact ⟨List.mem_of_find?_eq_some h, hp⟩

theorem mem_of_byToken {t : Users} {token : String} {siteId : Int} {u : UserRow}
    (h : t.byToken token siteId = some u) :
    u ∈ t.rows ∧ u.apiToken = some token ∧ u.siteId = siteId := by
  have hp := List.find?_some h
  simp only [Bool.and_eq_true, beq_iff_eq] at hp
  exact ⟨List.mem_of_find?_eq_some h, hp⟩

theorem eq_of_clash {t : Users} {u v : UserRow} (hu : u ∈ t.rows) (hv : v ∈ t.rows)
    (h : u.Clash v) : u = v := by
  have hsymm : Std.Symm fun u v : UserRow => ¬u.Clash v :=
    ⟨fun u v hn hc => hn ⟨hc.2 ▸ hc.1, hc.2.symm⟩⟩
  by_contra hne
  exact t.distinct.forall hu hv hne h

theorem exists_ofSite_iff {t : Users} {userId siteId : Int} :
    (∃ u, t.ofSite userId siteId = some u) ↔
      ∃ u ∈ t.rows, u.id = userId ∧ u.siteId = siteId := by
  rw [← Option.isSome_iff_exists, ofSite, List.find?_isSome]
  simp

theorem exists_byToken_iff {t : Users} {token : String} {siteId : Int} :
    (∃ u, t.byToken token siteId = some u) ↔
      ∃ u ∈ t.rows, u.apiToken = some token ∧ u.siteId = siteId := by
  rw [← Option.isSome_iff_exists, byToken, List.find?_isSome]
  simp

end Users

namespace Database

/-- The rows of the users of one site, if there is a table of users. -/
def usersOf (db : Database) (siteId : Int) : Option (List UserRow) :=
  db.users.map fun t => t.rowsOf siteId

theorem usersTable_ok {db : Database} {t : Users} (h : db.usersTable = .ok t) :
    db.users = some t := by
  unfold usersTable at h
  split at h
  · cases h
  · rename_i users hdb
    rw [hdb, Except.ok.inj h]

end Database

namespace Store

open Traced

/-- Two stores that differ at most in their users, and not in those of the site, if there is one;
if `plans` is not set they may differ in what they explain. -/
structure SameFor (plans : Bool) (site : Option Int) (a b : Store) : Prop where
  faults : a.faults = b.faults
  explain : plans = true → a.explain = b.explain ∧ a.plan = b.plan
  sites : a.database.sites = b.database.sites
  users : ∀ id ∈ site, a.database.usersOf id = b.database.usersOf id

variable {plans : Bool} {a b : Store}

/-- An answer has been read from a table. -/
theorem ask_ok {st : Store} {q : Question} {sql : String} {table : Except Failure τ}
    {bounds : List Int} {answer : τ → α} {x : α}
    (h : (st.ask q sql table bounds answer).outcome = .ok x) :
    ∃ t, table = .ok t ∧ x = answer t := by
  unfold ask at h
  split at h
  · cases h
  split at h
  · cases h
  rename_i t
  refine ⟨t, rfl, ?_⟩
  split at h
  · cases h
  split at h <;> exact (Except.ok.inj h).symm

/-- What is bound to a question that was answered fits its column. -/
theorem ask_fits {st : Store} {q : Question} {sql : String}
    {table : Except Failure τ} {bounds : List Int} {answer : τ → α} {x : α}
    (h : (st.ask q sql table bounds answer).outcome = .ok x) :
    bounds.all fitsColumn = true := by
  unfold ask at h
  split at h
  · cases h
  split at h
  · cases h
  split at h
  · cases h
  · rename_i hfits
    simpa using hfits

theorem ask_answer {st : Store} {q : Question} {sql : String}
    {table : Except Failure τ} {bounds : List Int} {answer : τ → α} {t : τ}
    (hf : st.faults q = none) (ht : table = .ok t) (hb : bounds.all fitsColumn = true) :
    (st.ask q sql table bounds answer).outcome = .ok (answer t) := by
  unfold ask
  rw [hf, ht]
  simp only [hb, Bool.not_true, Bool.false_eq_true, if_false]
  split <;> rfl

theorem ask_beyond {st : Store} {q : Question} {sql : String}
    {table : Except Failure τ} {bounds : List Int} {answer : τ → α} {t : τ}
    (hf : st.faults q = none) (ht : table = .ok t) (hb : bounds.all fitsColumn = false) :
    (st.ask q sql table bounds answer).outcome = .error beyondColumn := by
  unfold ask
  rw [hf, ht]
  simp only [hb, Bool.not_false, if_true]
  rfl

theorem ask_of_fault {st : Store} {q : Question} {f : Failure} (h : st.faults q = some f)
    {sql : String} {table : Except Failure τ} {bounds : List Int} {answer : τ → α} :
    (st.ask q sql table bounds answer).outcome = .error f := by
  unfold ask
  rw [h]
  rfl

/-- A question that reads the same from the tables of both stores. -/
theorem ask_alike (hf : a.faults = b.faults)
    (he : plans = true → a.explain = b.explain ∧ a.plan = b.plan) (q : Question) (sql : String)
    {table table' : Except Failure τ}
    (bounds : List Int) {answer : τ → α} (h : table.map answer = table'.map answer) :
    Alike plans Eq (a.ask q sql table bounds answer)
      (b.ask q sql table' bounds answer) := by
  have hplan : ∀ x : α, Alike plans Eq
      (if a.explains sql then ⟨.ok x, [.explained ⟨sql, a.plan sql⟩]⟩ else succeed x)
      (if b.explains sql then ⟨.ok x, [.explained ⟨sql, b.plan sql⟩]⟩ else succeed x) := by
    intro x
    cases plans with
    | true =>
      obtain ⟨hexplain, hplan⟩ := he rfl
      have hx : a.explains sql = b.explains sql := by
        unfold explains
        rw [hexplain]
      rw [hx, hplan]
      exact .refl _
    | false => split <;> split <;> exact .ok rfl rfl
  unfold ask
  rw [hf]
  cases b.faults q with
  | some f => exact .fail f
  | none =>
    cases table <;> cases table' <;> simp only [Except.map] at h
    · cases h
      exact .fail _
    · cases h
    · cases h
    · injection h with h
      dsimp only
      rw [h]
      split
      · exact .fail _
      · exact hplan _

namespace SameFor

variable {site : Option Int}

theorem siteByHost (h : SameFor plans site a b) (host domain : String) :
    Alike plans Eq (a.siteByHost host domain) (b.siteByHost host domain) :=
  ask_alike h.faults h.explain _ _ _ (by simp only [Database.sitesTable, h.sites])

theorem activeSites (h : SameFor plans site a b) : Alike plans Eq a.activeSites b.activeSites :=
  ask_alike h.faults h.explain _ _ _ (by simp only [Database.sitesTable, h.sites])

theorem activeCount (h : SameFor plans site a b) : Alike plans Eq a.activeCount b.activeCount :=
  ask_alike h.faults h.explain _ _ _ (by simp only [Database.sitesTable, h.sites])

/-- What is asked about the users of the site is the same for both. -/
theorem users_map {id : Int} (h : SameFor plans (some id) a b) {answer : Users → α}
    {ofRows : List UserRow → α} (ha : ∀ t, answer t = ofRows (t.rowsOf id)) :
    a.database.usersTable.map answer = b.database.usersTable.map answer := by
  have hu := h.users id rfl
  unfold Database.usersOf at hu
  unfold Database.usersTable
  cases ea : a.database.users <;> cases eb : b.database.users <;> rw [ea, eb] at hu
  · cases hu
  · cases hu
  · injection hu with hu
    dsimp only at hu
    show Except.ok (answer _) = Except.ok (answer _)
    rw [ha, ha, hu]

theorem userOfSite {id : Int} (h : SameFor plans (some id) a b) (userId : Int) :
    Alike plans Eq (a.userOfSite userId id) (b.userOfSite userId id) :=
  ask_alike h.faults h.explain _ _ _ (h.users_map fun t => t.ofSite_eq_find? userId id)

theorem userByToken {id : Int} (h : SameFor plans (some id) a b) (token : String) :
    Alike plans Eq (a.userByToken token id) (b.userByToken token id) :=
  ask_alike h.faults h.explain _ _ _ (h.users_map fun t => t.byToken_eq_find? token id)

theorem weaken (h : SameFor plans site a b) : SameFor plans none a b :=
  ⟨h.faults, h.explain, h.sites, by simp⟩

end SameFor

end Store

end Gatehouse
