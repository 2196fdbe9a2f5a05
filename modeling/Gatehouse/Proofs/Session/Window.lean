import Gatehouse.Proofs.Session.Assembly

/-! # When a token is accepted

A token that one deployment issues is handed to another one, or to the same one later. It is
accepted by a deployment that trusts the first one, from the second of its issue up to the second in
which it expires, and refused in all other cases (`accepted_in_window`). This is about moments below
2 ^ 33 seconds, where the clock is exact to the microsecond; the moment at which the token is read
may be any that a clock can show.

The reading of a token that names an infinite site breaks off (`breaks_of_infinite_site`). -/

namespace Gatehouse.SessionToken

open Json Text

variable {c₁ c₂ : SessionConfig} {a : SigningAlgorithm}

/-! ### Conditions -/

/-- The claims of a token that is issued at `now`, to live for `ttl`. -/
def issuedPayload (cfg : SessionConfig) (claims : SessionClaims) (now : UtcTime) (ttl : Duration) :
    Json :=
  payload cfg.issuer claims (wholeSeconds now.micros) (wholeSeconds (now.micros + ttl.micros))

/-- One deployment believes what another has signed. -/
structure Trusts (c₁ c₂ : SessionConfig) (a : SigningAlgorithm) (input : List Char) : Prop where
  algorithm : c₁.algorithm = c₂.algorithm
  issuer : c₁.issuer = c₂.issuer
  tag : SameTag c₁ c₂ a input

/-- The second that runs, in microseconds. -/
def secondOf (micros : ℤ) : ℤ := micros / 1000000 * 1000000

theorem secondOf_nonneg {micros : ℤ} (h : 0 ≤ micros) : 0 ≤ secondOf micros := by
  unfold secondOf
  omega

theorem fits_of_natAbs_le {n : ℤ} (hn : n.natAbs ≤ 2 ^ 63) : IntegerLiteral.Fits n := by
  have hdigits : (Nat.toDigits 10 n.natAbs).length ≤ 19 := by
    rw [Nat.length_toDigits_le_iff (by decide) (by decide)]
    omega
  exact hdigits.trans (by decide)

theorem fits_second {n : ℤ} (h₀ : 0 ≤ n) (hn : n ≤ exactSeconds) : IntegerLiteral.Fits n := by
  unfold exactSeconds at hn
  exact fits_of_natAbs_le (by omega)

theorem shown_of_exact {micros : ℤ} (h₀ : 0 ≤ micros) (h : micros < exactSeconds * 1000000) :
    CivilTime.firstMicros ≤ micros ∧ micros < CivilTime.endMicros := by
  unfold CivilTime.firstMicros CivilTime.endMicros
  unfold exactSeconds at h
  omega

/-- A deployment issues tokens without fail, as long as the end of their lives can be shown. -/
theorem issue_of_shown {claims : SessionClaims} {now : UtcTime} {ttl : Duration}
    (ha : SigningAlgorithm.ofName? c₁.algorithm = some a) (hs : Secret.usable c₁.secret = true)
    (hend : CivilTime.firstMicros ≤ now.micros + ttl.micros ∧
      now.micros + ttl.micros < CivilTime.endMicros) :
    issue c₁ claims (.ok now) ttl =
      .ok (assemble (.keyed a) c₁ (issuedPayload c₁ claims now ttl)) := by
  obtain ⟨expires, hexpires, hmicros⟩ := exists_moment hend
  unfold issue issuedPayload
  rw [ok_bind, hexpires, ok_bind, signer_of_usable ha hs, hmicros]
  rfl

theorem issue_eq {claims : SessionClaims} {now : UtcTime} {ttl : Duration}
    (ha : SigningAlgorithm.ofName? c₁.algorithm = some a) (hs : Secret.usable c₁.secret = true)
    (h₀ : 0 ≤ now.micros + ttl.micros) (h : now.micros + ttl.micros < exactSeconds * 1000000) :
    issue c₁ claims (.ok now) ttl =
      .ok (assemble (.keyed a) c₁ (issuedPayload c₁ claims now ttl)) :=
  issue_of_shown ha hs (shown_of_exact h₀ h)

/-- When such a token is accepted. -/
structure Accepted (c₁ c₂ : SessionConfig) (a : SigningAlgorithm) (claims : SessionClaims)
    (now : UtcTime) (ttl : Duration) (later : UtcTime) : Prop where
  trusts : Trusts c₁ c₂ a (signingInput c₁.algorithm (issuedPayload c₁ claims now ttl))
  begun : secondOf now.micros ≤ later.micros
  running : later.micros < secondOf (now.micros + ttl.micros)

theorem reached_second {start : ℤ} {later : UtcTime} (hs₀ : 0 ≤ start)
    (hs : start ≤ exactSeconds * 1000000) (h₀ : 0 ≤ later.micros) :
    reached (reading later.micros) (start / 1000000) = true ↔ secondOf start ≤ later.micros := by
  have hlast := later.bounds.2
  unfold CivilTime.endMicros at hlast
  exact reached_iff h₀ (by omega) (by omega) (by omega)

theorem objectOf_payload (issuer : String) {claims : SessionClaims} {issued expires : ℤ}
    (hsite : IntegerLiteral.Fits claims.siteId) (hi : IntegerLiteral.Fits issued)
    (he : IntegerLiteral.Fits expires) :
    objectOf .payload (segmentBytes (payload issuer claims issued expires)) =
      .ok (payloadMembers issuer claims.userId (.int claims.siteId) issued expires) := by
  rw [payload_eq]
  exact objectOf_segmentBytes .payload (legible_payload (fun _ => .int hsite) hi he)

/-- What a deployment makes of a token that another one has put together. -/
theorem decode_assembled {claims : SessionClaims} {issued expires : ℤ}
    (ha : SigningAlgorithm.ofName? c₁.algorithm = some a) (hs : Secret.usable c₂.secret = true)
    (hu : IntegerLiteral.Fits claims.userId) (hsite : IntegerLiteral.Fits claims.siteId)
    (hi : IntegerLiteral.Fits issued) (he : IntegerLiteral.Fits expires) (later : UtcTime) :
    decode c₂ (assemble (.keyed a) c₁ (payload c₁.issuer claims issued expires)) (.ok later) =
      if c₁.algorithm = c₂.algorithm then
        if SameTag c₁ c₂ a
            (signingInput c₁.algorithm (payload c₁.issuer claims issued expires)) then
          if ¬reached (reading later.micros) issued = true then refuse .issuedLater
          else if reached (reading later.micros) expires = true then refuse .expired
          else if c₁.issuer = c₂.issuer then .ok claims else refuse .issuerOther
        else refuse .signature
      else refuse .algorithmNotAllowed := by
  rw [decode_eq, signedClaims_assemble ha hs (objectOf_payload c₁.issuer hsite hi he)]
  split
  · split
    · rw [ok_bind, checkClaims_payload _ _ _ _ (by simp)]
      split
      · rfl
      split
      · rfl
      split
      · rw [ok_bind, vouched_payload _ _ _ hu]
      · rfl
    · rfl
  · rfl

section window

variable {claims : SessionClaims} {now : UtcTime} {ttl : Duration}
  (ha : SigningAlgorithm.ofName? c₁.algorithm = some a) (hs : Secret.usable c₂.secret = true)
  (hu : IntegerLiteral.Fits claims.userId) (hsite : IntegerLiteral.Fits claims.siteId)
  (h₀ : 0 ≤ now.micros) (hnow : now.micros < exactSeconds * 1000000)
  (hend₀ : 0 ≤ now.micros + ttl.micros) (hend : now.micros + ttl.micros < exactSeconds * 1000000)

include ha hs hu hsite h₀ hnow hend₀ hend

/-- What it makes of a token that another one has issued, later or earlier. -/
theorem decode_issued (later : UtcTime) :
    decode c₂ (assemble (.keyed a) c₁ (issuedPayload c₁ claims now ttl)) (.ok later) =
      if c₁.algorithm = c₂.algorithm then
        if SameTag c₁ c₂ a (signingInput c₁.algorithm (issuedPayload c₁ claims now ttl)) then
          if ¬reached (reading later.micros) (now.micros / 1000000) = true then
            refuse .issuedLater
          else if reached (reading later.micros) ((now.micros + ttl.micros) / 1000000) = true then
            refuse .expired
          else if c₁.issuer = c₂.issuer then .ok claims else refuse .issuerOther
        else refuse .signature
      else refuse .algorithmNotAllowed := by
  have hi : IntegerLiteral.Fits (now.micros / 1000000) := fits_second (by omega) (by omega)
  have he : IntegerLiteral.Fits ((now.micros + ttl.micros) / 1000000) :=
    fits_second (by omega) (by omega)
  unfold issuedPayload
  rw [wholeSeconds_eq h₀ hnow.le, wholeSeconds_eq hend₀ hend.le]
  exact decode_assembled ha hs hu hsite hi he later

theorem decode_of_accepted {later : UtcTime} (hl₀ : 0 ≤ later.micros)
    (h : Accepted c₁ c₂ a claims now ttl later) :
    decode c₂ (assemble (.keyed a) c₁ (issuedPayload c₁ claims now ttl)) (.ok later) =
      .ok claims := by
  obtain ⟨⟨halg, hissuer, htag⟩, hbegun, hrunning⟩ := h
  rw [decode_issued ha hs hu hsite h₀ hnow hend₀ hend, if_pos halg, if_pos htag,
    if_neg (not_not.2 ((reached_second h₀ hnow.le hl₀).2 hbegun)),
    if_neg (mt (reached_second hend₀ hend.le hl₀).1 (not_le.2 hrunning)), if_pos hissuer]

/-- In every other case the token is refused. -/
theorem refused_of_not_accepted {later : UtcTime} (hl₀ : 0 ≤ later.micros)
    (h : ¬Accepted c₁ c₂ a claims now ttl later) :
    ∃ fault, decode c₂ (assemble (.keyed a) c₁ (issuedPayload c₁ claims now ttl)) (.ok later) =
      refuse fault := by
  rw [decode_issued ha hs hu hsite h₀ hnow hend₀ hend]
  by_cases halg : c₁.algorithm = c₂.algorithm
  case neg => exact ⟨_, if_neg halg⟩
  rw [if_pos halg]
  by_cases htag : SameTag c₁ c₂ a (signingInput c₁.algorithm (issuedPayload c₁ claims now ttl))
  case neg => exact ⟨_, if_neg htag⟩
  rw [if_pos htag]
  by_cases hbegun : reached (reading later.micros) (now.micros / 1000000) = true
  case neg => exact ⟨_, if_pos hbegun⟩
  rw [if_neg (not_not.2 hbegun)]
  by_cases hover : reached (reading later.micros) ((now.micros + ttl.micros) / 1000000) = true
  case pos => exact ⟨_, if_pos hover⟩
  rw [if_neg hover]
  refine ⟨_, if_neg fun hissuer => h ⟨⟨halg, hissuer, htag⟩, ?_, ?_⟩⟩
  · exact (reached_second h₀ hnow.le hl₀).1 hbegun
  · exact not_le.1 (mt (reached_second hend₀ hend.le hl₀).2 hover)

end window

/-! ### A deployment's own tokens -/

theorem exists_of_issue {cfg : SessionConfig} {claims : SessionClaims} {now : Reading}
    {ttl : Duration} {token : String} (h : issue cfg claims now ttl = .ok token) :
    ∃ t, now = .ok t := by
  obtain ⟨t, ht, -⟩ := bind_eq_ok h
  exact ⟨t, ht⟩

/-- What is issued has been put together. -/
theorem issue_ok {cfg : SessionConfig} {claims : SessionClaims} {now : UtcTime} {ttl : Duration}
    {token : String} (ha : SigningAlgorithm.ofName? cfg.algorithm = some a)
    (h : issue cfg claims (.ok now) ttl = .ok token) :
    Secret.usable cfg.secret = true ∧
      token = assemble (.keyed a) cfg (issuedPayload cfg claims now ttl) := by
  unfold issue at h
  rw [ok_bind] at h
  obtain ⟨expires, hexpires, h⟩ := bind_eq_ok h
  obtain ⟨how, hhow, h⟩ := bind_eq_ok h
  rw [moment_ok hexpires] at h
  unfold signer at hhow
  rw [SigningAlgorithm.signer_ofName? ha] at hhow
  dsimp only at hhow
  split at hhow
  case isFalse => cases hhow
  rename_i husable
  obtain rfl := Except.ok.inj hhow
  exact ⟨husable, (Except.ok.inj h).symm⟩

/-- The whole seconds of any moment have few digits. -/
theorem fits_wholeSeconds {now : UtcTime} (h₀ : 0 ≤ now.micros) :
    IntegerLiteral.Fits (wholeSeconds now.micros) := by
  have hlast := now.bounds.2
  unfold CivilTime.endMicros at hlast
  generalize now.micros = micros at h₀ hlast
  rcases h₀.eq_or_lt with rfl | hpos
  · decide +kernel
  obtain ⟨hrounds, hread⟩ := reading_spec hpos (by omega)
  have hnonneg : 0 ≤ reading micros := by
    obtain ⟨e, m, -, -, hv⟩ := hrounds
    rw [hv]
    positivity
  have hfar : (micros : ℚ) < 2 ^ 58 := by exact_mod_cast (by omega : micros < 2 ^ 58)
  have hle := hrounds.le_add (k := 0) (by decide) (by norm_num; linarith)
  have hfloor : wholeSeconds micros = ⌊reading micros⌋ := by
    unfold wholeSeconds
    rw [Binary64.trunc?_of_nonneg hread hnonneg]
    rfl
  have hlow : 0 ≤ ⌊reading micros⌋ := Int.floor_nonneg.2 hnonneg
  have hhigh : ⌊reading micros⌋ < 2 ^ 40 := by
    refine Int.floor_lt.2 ?_
    norm_num at hle ⊢
    linarith
  rw [hfloor]
  exact fits_of_natAbs_le (by omega)

/-- A deployment accepts a token of its own in the window, and refuses it afterwards. -/
theorem decode_own {cfg : SessionConfig} {claims : SessionClaims} {now : UtcTime} {ttl : Duration}
    {token : String} (ha : SigningAlgorithm.ofName? cfg.algorithm = some a)
    (h : issue cfg claims (.ok now) ttl = .ok token) (hu : IntegerLiteral.Fits claims.userId)
    (hsite : IntegerLiteral.Fits claims.siteId) (h₀ : 0 ≤ now.micros)
    (hend₀ : 0 ≤ now.micros + ttl.micros)
    (hend : now.micros + ttl.micros ≤ exactSeconds * 1000000) {later : UtcTime}
    (hl₀ : 0 ≤ later.micros) :
    (secondOf now.micros ≤ later.micros → later.micros < secondOf (now.micros + ttl.micros) →
        decode cfg token (.ok later) = .ok claims) ∧
      (secondOf (now.micros + ttl.micros) ≤ later.micros →
        ∃ fault, decode cfg token (.ok later) = refuse fault) := by
  obtain ⟨hs, rfl⟩ := issue_ok ha h
  have he : IntegerLiteral.Fits (wholeSeconds (now.micros + ttl.micros)) := by
    rw [wholeSeconds_eq hend₀ hend]
    exact fits_second (by omega) (by omega)
  have hexpired := reached_second hend₀ hend hl₀
  rw [← wholeSeconds_eq hend₀ hend] at hexpired
  unfold issuedPayload
  rw [decode_assembled ha hs hu hsite (fits_wholeSeconds h₀) he, if_pos rfl,
    if_pos (SameTag.refl _)]
  constructor
  · intro hbegun hrunning
    have hexact : now.micros ≤ exactSeconds * 1000000 := by
      unfold secondOf at hbegun hrunning
      omega
    rw [wholeSeconds_eq h₀ hexact, if_neg (not_not.2 ((reached_second h₀ hexact hl₀).2 hbegun)),
      if_neg (mt hexpired.1 (not_le.2 hrunning)), if_pos rfl]
  · intro hover
    rw [if_pos (hexpired.2 hover)]
    by_cases hbegun : reached (reading later.micros) (wholeSeconds now.micros) = true
    · exact ⟨_, if_neg (not_not.2 hbegun)⟩
    · exact ⟨_, if_pos hbegun⟩

theorem decode_fresh (cfg : SessionConfig) (claims : SessionClaims) (now : UtcTime) (ttl : Duration)
    (ha : SigningAlgorithm.ofName? cfg.algorithm = some a) (hs : Secret.usable cfg.secret = true)
    (hu : IntegerLiteral.Fits claims.userId) (hsite : IntegerLiteral.Fits claims.siteId)
    (h₀ : 0 ≤ now.micros) (httl : 1000000 ≤ ttl.micros)
    (hend : now.micros + ttl.micros < exactSeconds * 1000000) :
    decode cfg (assemble (.keyed a) cfg (issuedPayload cfg claims now ttl)) (.ok now) =
      .ok claims := by
  refine decode_of_accepted ha hs hu hsite h₀ (by omega) (by omega) hend h₀
    ⟨⟨rfl, rfl, rfl⟩, ?_, ?_⟩
  all_goals
    unfold secondOf
    omega

/-- **Tokens are accepted within their window, by those who trust them, and refused outside.** A
window does not outlast the time to live; with a second to live it holds the moment of issue. -/
theorem accepted_in_window (c₁ c₂ : SessionConfig) (claims : SessionClaims) (now : UtcTime)
    (ttl : Duration) (ha : SigningAlgorithm.ofName? c₁.algorithm = some a)
    (hs₁ : Secret.usable c₁.secret = true) (hs₂ : Secret.usable c₂.secret = true)
    (hu : IntegerLiteral.Fits claims.userId) (hsite : IntegerLiteral.Fits claims.siteId)
    (h₀ : 0 ≤ now.micros) (hnow : now.micros < exactSeconds * 1000000)
    (hend₀ : 0 ≤ now.micros + ttl.micros)
    (hend : now.micros + ttl.micros < exactSeconds * 1000000) :
    ∃ token, issue c₁ claims (.ok now) ttl = .ok token ∧
      (∀ later : UtcTime, 0 ≤ later.micros →
        (Accepted c₁ c₂ a claims now ttl later → decode c₂ token (.ok later) = .ok claims) ∧
        (¬Accepted c₁ c₂ a claims now ttl later →
          ∃ fault, decode c₂ token (.ok later) = refuse fault)) ∧
      (∀ later : UtcTime, now.micros + ttl.micros ≤ later.micros →
        ∀ found, decode c₂ token (.ok later) ≠ .ok found) ∧
      (Trusts c₁ c₂ a (signingInput c₁.algorithm (issuedPayload c₁ claims now ttl)) →
        1000000 ≤ ttl.micros → now.micros < secondOf (now.micros + ttl.micros) ∧
        ∀ later : UtcTime, now.micros ≤ later.micros →
          later.micros < secondOf (now.micros + ttl.micros) →
          decode c₂ token (.ok later) = .ok claims) := by
  have accept := @decode_of_accepted c₁ c₂ a claims now ttl ha hs₂ hu hsite h₀ hnow hend₀ hend
  have refused :=
    @refused_of_not_accepted c₁ c₂ a claims now ttl ha hs₂ hu hsite h₀ hnow hend₀ hend
  have hdown : secondOf (now.micros + ttl.micros) ≤ now.micros + ttl.micros :=
    Int.ediv_mul_le _ (by decide)
  refine ⟨_, issue_eq ha hs₁ hend₀ hend, fun later hl₀ => ⟨accept hl₀, refused hl₀⟩,
    fun later hover found hfound => ?_, fun htrusts httl => ⟨?_, fun later hfrom huntil => ?_⟩⟩
  · obtain ⟨fault, hfault⟩ := refused (hend₀.trans hover)
      fun h => absurd h.running (not_lt.2 (hdown.trans hover))
    rw [hfault] at hfound
    cases hfound
  · unfold secondOf
    omega
  · have hbegun : secondOf now.micros ≤ later.micros :=
      (Int.ediv_mul_le _ (by decide)).trans hfrom
    exact accept (h₀.trans hfrom) ⟨htrusts, hbegun, huntil⟩

theorem usable_initial : Secret.usable (Settings.initial).sessionSecret = true := by
  decide +kernel

/-- A token that lives for an hour from the middle of a second is accepted up to the start of the
second in which it expires, and refused from then on, even in the year 9999. -/
theorem accepted_for_an_hour :
    let cfg := SessionConfig.ofSettings .initial
    let now : UtcTime := ⟨1700000000500000, by decide +kernel⟩
    let last : UtcTime := ⟨1700003599999999, by decide +kernel⟩
    let ended : UtcTime := ⟨1700003600000000, by decide +kernel⟩
    let farOff : UtcTime := ⟨253402300799999999, by decide +kernel⟩
    ∃ token, issue cfg ⟨10, -1⟩ (.ok now) (.ofSeconds 3600) = .ok token ∧
      decode cfg token (.ok now) = .ok ⟨10, -1⟩ ∧ decode cfg token (.ok last) = .ok ⟨10, -1⟩ ∧
      (∃ fault, decode cfg token (.ok ended) = refuse fault) ∧
      ∃ fault, decode cfg token (.ok farOff) = refuse fault := by
  intro cfg now last ended farOff
  have husable : Secret.usable cfg.secret = true := usable_initial
  obtain ⟨token, hissue, hwindow, -, hlives⟩ := accepted_in_window cfg cfg ⟨10, -1⟩
    now (.ofSeconds 3600) (a := .hs256) rfl husable husable (by decide) (by decide)
    (by decide) (by decide) (by decide) (by decide)
  obtain ⟨-, hlives⟩ := hlives ⟨rfl, rfl, rfl⟩ (by decide)
  exact ⟨token, hissue, hlives now (by decide) (by decide), hlives last (by decide) (by decide),
    (hwindow ended (by decide)).2 fun h => absurd h.running (by decide),
    (hwindow farOff (by decide)).2 fun h => absurd h.running (by decide)⟩

/-! ### A site without an end -/

/-- Whoever can sign can name an infinite site, and a token that does breaks its reading. -/
theorem breaks_of_infinite_site (cfg : SessionConfig) (userId issued expires : ℤ) (now : UtcTime)
    (ha : SigningAlgorithm.ofName? cfg.algorithm = some a) (hs : Secret.usable cfg.secret = true)
    (hu : IntegerLiteral.Fits userId) (hi₀ : 0 ≤ issued)
    (hi : issued * 1000000 ≤ now.micros) (he₀ : 0 ≤ expires) (he : now.micros < expires * 1000000)
    (hexact : expires ≤ exactSeconds) (negative : Bool) :
    Breaks cfg (assemble (.keyed a) cfg
      (.object (payloadMembers cfg.issuer userId (.float (.infinite negative)) issued expires)))
      now := by
  have hnow₀ : 0 ≤ now.micros := by omega
  have hfar : now.micros < 2 ^ 100 := by
    unfold exactSeconds at hexact
    omega
  have hunderway : reached (reading now.micros) issued = true :=
    (reached_iff hnow₀ hfar hi₀ (by omega)).2 hi
  have hrunning : ¬reached (reading now.micros) expires = true :=
    mt (reached_iff hnow₀ hfar he₀ hexact).1 (by omega)
  let members := payloadMembers cfg.issuer userId (.float (.infinite negative)) issued expires
  have hlegible : Legible maxDepth (.object members) :=
    legible_payload (fun _ => .infinite negative) (fits_second hi₀ (by omega))
      (fits_second he₀ hexact)
  obtain ⟨-, hsub, hsite, -, -⟩ :=
    claims_payload cfg.issuer userId (.float (.infinite negative)) issued expires
  refine ⟨members, ?_, ?_, ⟨userId, ?_⟩, ?_⟩
  · rw [signedClaims_assemble ha hs (objectOf_segmentBytes .payload hlegible), if_pos rfl]
    exact if_pos rfl
  · rw [checkClaims_payload _ _ _ _ (by simp), if_neg (not_not.2 hunderway), if_neg hrunning,
      if_pos rfl]
  · rw [hsub, toInteger_decimal hu]
  · rw [hsite]
    rfl

end Gatehouse.SessionToken
