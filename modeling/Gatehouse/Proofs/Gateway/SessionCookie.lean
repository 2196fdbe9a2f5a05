import Gatehouse.Proofs.Gateway.Authorization
import Gatehouse.Proofs.Session.Window

/-! # What a session cookie can do to a request

A cookie that is no valid session leaves the request anonymous. There are exceptions, and
`Derails` lists them: a token that breaks its own reading (`SessionToken.Breaks`), and a token that
is valid for the site but vouches for a user whose id is too large to be asked for. Such a cookie
ends the request (`signed_sessions_derail`). Main statement: no other cookie does
(`session_ends_well_unless_derailed`). -/

namespace Gatehouse

open Traced SessionToken

variable {ctx : Context} {s : Settings} {a : SigningAlgorithm} {users : Users} {site : Tenant}
  {wall : UtcTime} {token : String}

/-- A session that ends the request: its token breaks the reading, or its user cannot be asked
for. -/
def Derails (s : Settings) (site : Tenant) (wall : UtcTime) (token : String) : Prop :=
  Breaks (.ofSettings s) token wall ∨
    ∃ claims, decode (.ofSettings s) token (.ok wall) = .ok claims ∧ claims.siteId = site.id ∧
      fitsColumn claims.userId = false

/-- The user, if there is one, is one of the site. -/
def OfSite (users : Users) (site : Tenant) (user : Option Principal) : Prop :=
  ∀ p ∈ user, p.siteId = site.id ∧ ∃ u ∈ users.rows, p = .ofRow u

theorem ofSite_map_ofRow (users : Users) (site : Tenant) (userId : Int) :
    OfSite users site ((users.ofSite userId site.id).map Principal.ofRow) := by
  intro p hp
  obtain ⟨u, hu, rfl⟩ := Option.map_eq_some_iff.1 hp
  obtain ⟨hmem, -, hsite⟩ := Users.mem_of_ofSite hu
  exact ⟨hsite, u, hmem, rfl⟩

theorem Store.Serves.userOfSite_beyond {st : Store} (h : st.Serves users) {userId siteId : Int}
    (hu : fitsColumn userId = false) :
    (st.userOfSite userId siteId).outcome = .error beyondColumn :=
  Store.ask_beyond (by rw [h.faults]) h.usersTable (by simp [hu])

/-- A session that does not derail is followed to a user of the site, or to none. -/
theorem ofSession_of_not_derails {how : Signer} (h : ctx.On s users site)
    (hs : signer (.ofSettings s) = .ok how) (hd : ¬Derails s site wall token) :
    ∃ user, (Principal.ofSession ctx (.ok wall) token).outcome = .ok user ∧
      OfSite users site user := by
  have hrefuses := refuses_decode hs fun hb => hd (.inl hb)
  unfold Principal.ofSession
  rw [h.site, h.settings]
  dsimp only
  cases hdec : decode (.ofSettings s) token (.ok wall) with
  | error f =>
    obtain ⟨fault, rfl⟩ := hrefuses f hdec
    exact ⟨none, rfl, fun p hp => by cases hp⟩
  | ok claims =>
    dsimp only
    by_cases hsite : claims.siteId = site.id
    · have hfits : fitsColumn claims.userId = true := by
        by_contra hbeyond
        exact hd (.inr ⟨claims, hdec, hsite, by simpa using hbeyond⟩)
      rw [if_pos hsite]
      exact ⟨_, outcome_ofQuery (h.store.userOfSite hfits h.fits), ofSite_map_ofRow users site _⟩
    · rw [if_neg hsite]
      exact ⟨none, rfl, fun p hp => by cases hp⟩

/-- A session that derails ends the work. -/
theorem ofSession_of_derails (h : ctx.On s users site) (hd : Derails s site wall token) :
    ∃ message, (Principal.ofSession ctx (.ok wall) token).outcome = .error (.overflow message) := by
  unfold Principal.ofSession
  rw [h.site, h.settings]
  dsimp only
  rcases hd with hb | ⟨claims, hdec, hsite, hbeyond⟩
  · obtain ⟨message, hdec⟩ := hb.decode
    rw [hdec]
    exact ⟨message, rfl⟩
  · rw [hdec]
    dsimp only
    rw [if_pos hsite]
    exact ⟨_, outcome_ofQuery_error (h.store.userOfSite_beyond hbeyond) rfl⟩

/-- The session cookie of the request is followed, and derails it. -/
def DerailedBy (ctx : Context) (s : Settings) (site : Tenant) (wall : UtcTime) (r : Request) :
    Prop :=
  ctx.user = none ∧ ∃ token, ctx.sessionToken? r.cookies = some token ∧ Derails s site wall token

theorem sessionToken?_withBearer (ctx : Context) (bearer : Option String) (cookies : List String) :
    (ctx.withBearer bearer).sessionToken? cookies = ctx.sessionToken? cookies := by
  rw [Context.withBearer_eq]
  rfl

theorem identify_of_known {user : Principal} (hu : ctx.user = some user) (now : Reading)
    (r : Request) :
    ctx.identify now r.bearer? r.cookies = .succeed (ctx.withBearer r.bearer?) := by
  have huser : (ctx.withBearer r.bearer?).user = some user := by rw [Context.withBearer_eq, hu]
  unfold Context.identify
  dsimp only
  rw [huser]
  rfl

/-- A request that is not derailed goes on, with the user that was known, or with one of the site,
or without any. -/
theorem identify_of_not_derailed {how : Signer} (h : ctx.On s users site)
    (hs : signer (.ofSettings s) = .ok how) {r : Request}
    (hd : ¬DerailedBy ctx s site wall r) :
    ∃ user, (ctx.identify (.ok wall) r.bearer? r.cookies).outcome =
        .ok { ctx.withBearer r.bearer? with user } ∧
      (user = ctx.user ∨ OfSite users site user) := by
  have hb := h.withBearer r.bearer?
  cases hu : ctx.user with
  | some known =>
    have huser : (ctx.withBearer r.bearer?).user = some known := by rw [Context.withBearer_eq, hu]
    refine ⟨some known, ?_, .inl rfl⟩
    rw [identify_of_known hu, ← huser]
    rfl
  | none =>
    have huser : (ctx.withBearer r.bearer?).user = none := by rw [Context.withBearer_eq, hu]
    rw [identify_of_unknown hu]
    cases htoken : (ctx.withBearer r.bearer?).sessionToken? r.cookies with
    | none =>
      refine ⟨none, ?_, .inl rfl⟩
      rw [← huser]
      rfl
    | some token =>
      rw [sessionToken?_withBearer] at htoken
      obtain ⟨user, ho, hof⟩ :=
        ofSession_of_not_derails hb hs fun hd' => hd ⟨hu, token, htoken, hd'⟩
      refine ⟨user, ?_, .inr hof⟩
      dsimp only
      rw [outcome_bind, ho]
      rfl

theorem identify_of_derailed (h : ctx.On s users site) {r : Request}
    (hd : DerailedBy ctx s site wall r) :
    ∃ message, (ctx.identify (.ok wall) r.bearer? r.cookies).outcome =
      .error (.overflow message) := by
  obtain ⟨hu, token, htoken, hd⟩ := hd
  obtain ⟨message, ho⟩ := ofSession_of_derails (h.withBearer r.bearer?) hd
  refine ⟨message, ?_⟩
  rw [identify_of_unknown hu, sessionToken?_withBearer, htoken]
  dsimp only
  rw [outcome_bind, ho]
  rfl

/-- How a session cookie can end: for a token that is read, for a token that is followed to a user,
and for a request whose caller is loaded. -/
structure CookieOutcomes (ctx : Context) (s : Settings) (users : Users) (site : Tenant)
    (wall : UtcTime) : Prop where
  /-- A token gives claims or is refused for a fault of its own. -/
  read : ∀ token, ¬Breaks (.ofSettings s) token wall →
    (∃ claims, decode (.ofSettings s) token (.ok wall) = .ok claims) ∨
      ∃ fault, decode (.ofSettings s) token (.ok wall) = refuse fault
  broken : ∀ token, Breaks (.ofSettings s) token wall →
    ∃ message, decode (.ofSettings s) token (.ok wall) = .error (.overflow message)
  /-- It leads to a user of the site or to none. -/
  followed : ∀ token, ¬Derails s site wall token →
    ∃ user, (Principal.ofSession ctx (.ok wall) token).outcome = .ok user ∧ OfSite users site user
  derailed : ∀ token, Derails s site wall token →
    ∃ message, (Principal.ofSession ctx (.ok wall) token).outcome = .error (.overflow message)
  /-- The request goes on, signed in or anonymous. -/
  loaded : ∀ r : Request, ¬DerailedBy ctx s site wall r →
    ∃ user, (ctx.identify (.ok wall) r.bearer? r.cookies).outcome =
        .ok { ctx.withBearer r.bearer? with user } ∧
      (user = ctx.user ∨ OfSite users site user)
  ended : ∀ r : Request, DerailedBy ctx s site wall r →
    ∃ message, (ctx.identify (.ok wall) r.bearer? r.cookies).outcome = .error (.overflow message)

/-- **A session cookie is no error, unless it derails the request.** For every deployment that signs
with a key and every text that is sent as the cookie. -/
theorem session_ends_well_unless_derailed (ctx : Context) (s : Settings) (users : Users)
    (site : Tenant) (wall : UtcTime) (ha : SigningAlgorithm.ofName? s.sessionAlgorithm = some a)
    (hsecret : Secret.usable s.sessionSecret = true) (h : ctx.On s users site) :
    CookieOutcomes ctx s users site wall := by
  have hs : signer (.ofSettings s) = .ok (.keyed a) := signer_of_usable ha hsecret
  constructor
  case read =>
    intro token hb
    cases hdec : decode (.ofSettings s) token (.ok wall) with
    | ok claims => exact .inl ⟨claims, rfl⟩
    | error f =>
      obtain ⟨fault, rfl⟩ := refuses_decode hs hb f hdec
      exact .inr ⟨fault, rfl⟩
  case broken => exact fun token => Breaks.decode
  case followed => exact fun token => ofSession_of_not_derails h hs
  case derailed => exact fun token => ofSession_of_derails h
  case loaded => exact fun r => identify_of_not_derailed h hs
  case ended => exact fun r => identify_of_derailed h

/-- A session of a user of the site is followed, for its token is in order. -/
theorem issued_session_goes_on :
    let users : Users := ⟨[⟨10, 1, "u@a.org", none⟩], by decide, by decide⟩
    let site : Tenant := ⟨1, "a", some "a.org", none, false, false⟩
    let ctx : Context :=
      { Context.start ⟨⟨none, some users⟩, fun _ => none, fun _ => [], none⟩ .initial default with
        site }
    let now : UtcTime := ⟨1700000000000000, by decide +kernel⟩
    ∃ token, issue (.ofSettings .initial) ⟨10, 1⟩ (.ok now) (.ofSeconds 3600) = .ok token ∧
      ∃ user, (Principal.ofSession ctx (.ok now) token).outcome = .ok user ∧
        OfSite users site user := by
  intro users site ctx now
  have husable := usable_initial
  have hdecode := decode_fresh (.ofSettings .initial) ⟨10, 1⟩ now (.ofSeconds 3600) rfl
    husable (by decide) (by decide) (by decide) (by decide) (by decide)
  refine ⟨_, issue_eq rfl husable (by decide) (by decide), ?_⟩
  have hgood := session_ends_well_unless_derailed ctx .initial users site now rfl
    husable ⟨rfl, rfl, ⟨rfl, rfl⟩, by decide⟩
  refine hgood.followed _ ?_
  rintro (hb | ⟨claims, hdec, -, hbeyond⟩)
  · obtain ⟨message, hdec⟩ := hb.decode
    rw [hdecode] at hdec
    cases hdec
  · rw [hdecode] at hdec
    obtain rfl := Except.ok.inj hdec
    cases hbeyond

/-- Two sessions that are correctly signed and end the work: one for an infinite site, which is not
even refused, and one for a user of the site with an id beyond its column. -/
theorem signed_sessions_derail :
    let users : Users := ⟨[⟨10, 1, "u@a.org", none⟩], by decide, by decide⟩
    let site : Tenant := ⟨1, "a", some "a.org", none, false, false⟩
    let ctx : Context :=
      { Context.start ⟨⟨none, some users⟩, fun _ => none, fun _ => [], none⟩ .initial default with
        site }
    let cfg := SessionConfig.ofSettings .initial
    let endless := assemble (.keyed .hs256) cfg
      (.object (payloadMembers cfg.issuer 1 (.float (.infinite false)) 1700000000 1700003600))
    let now : UtcTime := ⟨1700000000000000, by decide +kernel⟩
    (∀ claims, decode cfg endless (.ok now) ≠ .ok claims) ∧
      (∀ fault, decode cfg endless (.ok now) ≠ refuse fault) ∧
      ∃ token, issue cfg ⟨9223372036854775808, 1⟩ (.ok now) (.ofSeconds 3600) = .ok token ∧
        ∀ user, (Principal.ofSession ctx (.ok now) token).outcome ≠ .ok user := by
  intro users site ctx cfg endless now
  have husable := usable_initial
  obtain ⟨message, hendless⟩ := (breaks_of_infinite_site cfg 1 1700000000 1700003600
    now (a := .hs256) rfl husable (by decide) (by decide) (by decide) (by decide)
    (by decide) (by decide) false).decode
  refine ⟨fun claims h => ?_, fun fault h => ?_, _,
    issue_eq rfl husable (by decide) (by decide), fun user h => ?_⟩
  · rw [hendless] at h
    cases h
  · rw [hendless] at h
    cases h
  · have hdecode := decode_fresh cfg ⟨9223372036854775808, 1⟩ now (.ofSeconds 3600) rfl
      husable (by decide) (by decide) (by decide) (by decide) (by decide)
    have hctx : ctx.On .initial users site := ⟨rfl, rfl, ⟨rfl, rfl⟩, by decide⟩
    obtain ⟨message, herror⟩ := ofSession_of_derails hctx (.inr ⟨_, hdecode, rfl, by decide⟩)
    rw [herror] at h
    cases h

end Gatehouse
