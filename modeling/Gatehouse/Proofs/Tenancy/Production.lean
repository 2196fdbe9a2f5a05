import Mathlib.Data.List.Pairwise
import Gatehouse.Proofs.Tenancy.Resolution

/-! # Hosts in production

`Sites.Serves` says which row serves a host: an active one that has the host as its own name, or,
if no active row has, the one whose code stands in front of the domain. At most one row does
(`Serves.unique`), and looking for the host finds exactly that row (`byHost_eq_some`); so
`production_exact` describes what a host is resolved to without an order of the rows, and without
the rows of deleted sites. -/

namespace Gatehouse

open Traced

/-! ### Hosts under the domain -/

/-- The host is a code in front of the domain, with a point between. -/
structure UnderDomain (host domain code : String) : Prop where
  domain_ne : domain ≠ ""
  code_ne : code ≠ ""
  host_eq : host = code ++ "." ++ domain

namespace UnderDomain

variable {host domain code : String}

theorem toList_host (h : UnderDomain host domain code) :
    host.toList = code.toList ++ '.' :: domain.toList := by
  rw [h.host_eq]
  simp

theorem code_unique {other : String} (h : UnderDomain host domain code)
    (h' : UnderDomain host domain other) : code = other := by
  have e := h.toList_host.symm.trans h'.toList_host
  exact String.toList_inj.1 (List.append_cancel_right e)

end UnderDomain

namespace Sites

variable {t : Sites} {host domain : String}

/-- Taking the domain off a host gives the code in front of it, and nothing else. -/
theorem codeOfHost?_eq_some {code : String} :
    codeOfHost? host domain = some code ↔ UnderDomain host domain code := by
  unfold codeOfHost?
  dsimp only
  constructor
  · intro h
    split at h
    · cases h
    rename_i hfits
    simp only [Bool.or_eq_true, String.isEmpty_iff, decide_eq_true_eq, bne_iff_ne, not_or,
      not_not] at hfits
    obtain ⟨⟨hdomain, hlength⟩, hsuffix⟩ := hfits
    obtain rfl := Option.some.inj h
    refine ⟨hdomain, ?_, ?_⟩
    · rw [← String.toList_inj.ne, String.toList_ofList]
      refine List.ne_nil_of_length_pos ?_
      rw [List.length_take]
      omega
    · have hsplit := List.take_append_drop (host.toList.length - ('.' :: domain.toList).length)
        host.toList
      rw [hsuffix] at hsplit
      rw [← String.toList_inj, ← hsplit]
      simp
  · intro h
    have hcode : code.toList ≠ [] := fun e => h.code_ne (String.toList_inj.1 e)
    have hpos := List.length_pos_iff.2 hcode
    rw [h.toList_host, List.length_append, Nat.add_sub_cancel, List.drop_left, List.take_left,
      if_neg, String.ofList_toList]
    simp only [Bool.or_eq_true, String.isEmpty_iff, decide_eq_true_eq, bne_self_eq_false, not_or]
    exact ⟨⟨h.domain_ne, by omega⟩, by simp⟩

/-! ### Rows -/

theorem mem_active {r : SiteRow} : r ∈ t.active ↔ r ∈ t.rows ∧ r.state = .active := by
  simp [active]

theorem eq_of_clash {r s : SiteRow} (hr : r ∈ t.rows) (hs : s ∈ t.rows) (h : r.Clash s) :
    r = s := by
  have hsymm : Std.Symm fun r s : SiteRow => ¬r.Clash s := by
    refine ⟨fun r s hn hc => hn (hc.imp Eq.symm ?_)⟩
    rintro ⟨hsome, he⟩
    exact ⟨he ▸ hsome, he.symm⟩
  by_contra hne
  exact t.distinct.forall hr hs hne h

/-- The row serves the host: it is active, and the host is its own name, or no active row's own
name but its code in front of the domain. -/
structure Serves (t : Sites) (host domain : String) (r : SiteRow) : Prop where
  mem : r ∈ t.rows
  active : r.state = .active
  addressed : r.cname = some host ∨
    (∀ s ∈ t.rows, s.state = .active → s.cname ≠ some host) ∧ UnderDomain host domain r.code

instance {host domain code : String} : Decidable (UnderDomain host domain code) :=
  decidable_of_iff (domain ≠ "" ∧ code ≠ "" ∧ host = code ++ "." ++ domain)
    ⟨fun ⟨h₁, h₂, h₃⟩ => ⟨h₁, h₂, h₃⟩, fun h => ⟨h.domain_ne, h.code_ne, h.host_eq⟩⟩

instance (r : SiteRow) : Decidable (t.Serves host domain r) :=
  decidable_of_iff (r ∈ t.rows ∧ r.state = .active ∧ (r.cname = some host ∨
      (∀ s ∈ t.rows, s.state = .active → s.cname ≠ some host) ∧ UnderDomain host domain r.code))
    ⟨fun ⟨h₁, h₂, h₃⟩ => ⟨h₁, h₂, h₃⟩, fun h => ⟨h.mem, h.active, h.addressed⟩⟩

/-- At most one row serves a host. -/
theorem Serves.unique {r s : SiteRow} (hr : t.Serves host domain r)
    (hs : t.Serves host domain s) : r = s := by
  apply eq_of_clash hr.mem hs.mem
  rcases hr.addressed, hs.addressed with ⟨hr' | ⟨hr₁, hr₂⟩, hs' | ⟨hs₁, hs₂⟩⟩
  · exact .inr ⟨by rw [hr']; rfl, hr'.trans hs'.symm⟩
  · exact absurd hr' (hs₁ r hr.mem hr.active)
  · exact absurd hs' (hr₁ s hs.mem hs.active)
  · exact .inl (hr₂.code_unique hs₂)

/-- What is found under a host serves it. -/
theorem serves_of_byHost {r : SiteRow} (h : t.byHost host domain = some r) :
    t.Serves host domain r := by
  unfold byHost at h
  split at h
  · rename_i r' hfound
    obtain rfl : r' = r := Option.some.inj h
    obtain ⟨hmem, hactive⟩ := mem_active.1 (List.mem_of_find?_eq_some hfound)
    exact ⟨hmem, hactive, .inl (by simpa using List.find?_some hfound)⟩
  · rename_i hnone
    obtain ⟨code, hcode, hfound⟩ := Option.bind_eq_some_iff.1 h
    obtain ⟨hmem, hactive⟩ := mem_active.1 (List.mem_of_find?_eq_some hfound)
    obtain rfl : r.code = code := by simpa using List.find?_some hfound
    refine ⟨hmem, hactive, .inr ⟨fun s hs hsa hname => ?_, codeOfHost?_eq_some.1 hcode⟩⟩
    exact List.find?_eq_none.1 hnone s (mem_active.2 ⟨hs, hsa⟩) (by simpa using hname)

theorem isSome_byHost {r : SiteRow} (h : t.Serves host domain r) :
    (t.byHost host domain).isSome := by
  have hmem : r ∈ t.active := mem_active.2 ⟨h.mem, h.active⟩
  unfold byHost
  split
  · rfl
  · rename_i hnone
    rcases h.addressed with hname | ⟨-, hcode⟩
    · exact absurd (by simpa using hname) (List.find?_eq_none.1 hnone r hmem)
    · rw [codeOfHost?_eq_some.2 hcode, Option.bind_some, List.find?_isSome]
      exact ⟨r, hmem, by simp⟩

/-- Looking for a host finds the row that serves it. -/
theorem byHost_eq_some {r : SiteRow} :
    t.byHost host domain = some r ↔ t.Serves host domain r := by
  refine ⟨serves_of_byHost, fun h => ?_⟩
  obtain ⟨s, hs⟩ := Option.isSome_iff_exists.1 (isSome_byHost h)
  rw [hs, (serves_of_byHost hs).unique h]

/-- In whatever order its active rows are looked through, the first that serves the host is the one
found. -/
theorem find?_serves (rows : List SiteRow) (h : rows.Perm t.active) :
    rows.find? (fun r => decide (t.Serves host domain r)) = t.byHost host domain := by
  apply Option.ext
  intro r
  rw [byHost_eq_some]
  constructor
  · intro hr
    simpa using List.find?_some hr
  · intro hr
    have hmem : r ∈ rows := h.mem_iff.2 (mem_active.2 ⟨hr.mem, hr.active⟩)
    have hsome : (rows.find? fun r => decide (t.Serves host domain r)).isSome := by
      rw [List.find?_isSome]
      exact ⟨r, hmem, decide_eq_true hr⟩
    obtain ⟨s, hs⟩ := Option.isSome_iff_exists.1 hsome
    have hserves : t.Serves host domain s := by simpa using List.find?_some hs
    rw [hs, hserves.unique hr]

end Sites

namespace Tenant

variable {st : Store} {t : Sites} {host domain : String}

/-- In production nothing but the answer to the question for the host counts. -/
theorem outcome_resolve_production {found : Option SiteRow}
    (h : (st.siteByHost host domain).outcome = .ok found) :
    (resolve st true host domain).outcome = (settle host (.ok found)).outcome := by
  unfold resolve
  rw [outcome_bind]
  simp only [Traced.attempt, h]
  rfl

/-- **Resolution in production is exact.** A host is resolved to the tenant of the one row that
serves it, and is refused if there is none; at most one row serves it, and it is the first that
serves it among the active rows in any order. -/
theorem production_exact (st : Store) (t : Sites) (host domain : String)
    (ht : st.database.sites = some t) (hf : st.faults .siteByHost = none) :
    (∀ site, (resolve st true host domain).outcome = .ok site ↔
      ∃ r, t.Serves host domain r ∧
        site = ⟨r.id, r.code, r.cname, r.parent, r.isPublic, r.isAdmin⟩) ∧
    ((∀ r, ¬t.Serves host domain r) →
      (resolve st true host domain).outcome = .error (.gateway (.siteNotFound host))) ∧
    (∀ r s, t.Serves host domain r → t.Serves host domain s → r = s) ∧
    ∀ rows : List SiteRow, rows.Perm t.active →
      (resolve st true host domain).outcome =
        match rows.find? (fun r => decide (t.Serves host domain r)) with
        | some r => .ok (ofRow r)
        | none => .error (.gateway (.siteNotFound host)) := by
  have hfound : (st.siteByHost host domain).outcome = .ok (t.byHost host domain) :=
    Store.ask_answer hf (by rw [Database.sitesTable, ht]) rfl
  have hresolve : (resolve st true host domain).outcome =
      match t.byHost host domain with
      | some r => .ok (ofRow r)
      | none => .error (.gateway (.siteNotFound host)) := by
    rw [outcome_resolve_production hfound]
    cases t.byHost host domain <;> rfl
  refine ⟨fun site => ?_, fun hnone => ?_, fun r s => Sites.Serves.unique, fun rows hrows => ?_⟩
  · rw [hresolve]
    cases hb : t.byHost host domain with
    | none =>
      refine iff_of_false (by simp) ?_
      rintro ⟨r, hr, -⟩
      rw [Sites.byHost_eq_some.2 hr] at hb
      cases hb
    | some r =>
      constructor
      · intro hsite
        exact ⟨r, Sites.byHost_eq_some.1 hb, (Except.ok.inj hsite).symm⟩
      · rintro ⟨s, hs, rfl⟩
        obtain rfl := (Sites.byHost_eq_some.1 hb).unique hs
        rfl
  · have hb : t.byHost host domain = none := by
      rw [Option.eq_none_iff_forall_ne_some]
      exact fun r hr => hnone r (Sites.byHost_eq_some.1 hr)
    rw [hresolve, hb]
  · rw [hresolve, Sites.find?_serves rows hrows]

/-- The name that a site has of its own goes before the code of another, and the name of a deleted
site is not looked at. -/
theorem own_name_before_code :
    let t : Sites := ⟨[⟨1, none, "shop", none, false, false, .active⟩,
      ⟨2, some 1, "b", some "shop.a.org", true, false, .active⟩,
      ⟨3, none, "c", some "d.a.org", false, true, .deleted⟩,
      ⟨4, none, "d", none, false, false, .active⟩], by decide, by decide⟩
    let st : Store := ⟨⟨some t, none⟩, fun _ => none, fun _ => [], none⟩
    st.database.sites = some t ∧ st.faults .siteByHost = none ∧
      (resolve st true "shop.a.org" "a.org").outcome =
        .ok ⟨2, "b", some "shop.a.org", some 1, true, false⟩ ∧
      (resolve st true "d.a.org" "a.org").outcome = .ok ⟨4, "d", none, none, false, false⟩ ∧
      (resolve st true ".a.org" "a.org").outcome = .error (.gateway (.siteNotFound ".a.org")) := by
  intro t st
  have found := fun host => production_exact st t host "a.org" rfl rfl
  refine ⟨rfl, rfl, ?_, ?_, ?_⟩
  · exact ((found "shop.a.org").1 _).2
      ⟨⟨2, some 1, "b", some "shop.a.org", true, false, .active⟩, by decide +kernel, rfl⟩
  · exact ((found "d.a.org").1 _).2
      ⟨⟨4, none, "d", none, false, false, .active⟩, by decide +kernel, rfl⟩
  · exact (found ".a.org").2.2.2 t.active (.refl _)

end Tenant

end Gatehouse
