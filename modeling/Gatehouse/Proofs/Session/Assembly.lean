import Gatehouse.Proofs.Json.Bytes
import Gatehouse.Proofs.Session.Clock
import Gatehouse.Proofs.Session.Segments
import Gatehouse.Proofs.Session.Stages

/-! # Tokens that are put together

Header and payload of a token read back as what was written. So of all that is done to a token that
was put together, only the checks are left: one deployment judges what another has signed by the
algorithm and the signature (`signedClaims_assemble`), and claims as they are issued come down to
two comparisons with the clock and one of the issuers (`checkClaims_payload`). -/

namespace Gatehouse.SessionToken

open Json Text

variable {c₁ c₂ : SessionConfig} {a : SigningAlgorithm}

/-! ### What was written reads back -/

theorem legible_header (algorithm : String) : Legible maxDepth (header algorithm) := by
  refine .object (by simp) fun m hm => ?_
  simp only [List.mem_cons, List.not_mem_nil, or_false] at hm
  rcases hm with rfl | rfl
  all_goals exact .text _

/-- The members of a payload that names its site by any value. -/
def payloadMembers (issuer : String) (userId : ℤ) (site : Json) (issued expires : ℤ) :
    List (String × Json) :=
  [("iss", .text issuer), ("sub", .text (decimal userId)), ("site", site), ("iat", .int issued),
    ("exp", .int expires)]

theorem payload_eq (issuer : String) (claims : SessionClaims) (issued expires : ℤ) :
    payload issuer claims issued expires =
      .object (payloadMembers issuer claims.userId (.int claims.siteId) issued expires) := rfl

theorem legible_payload {issuer : String} {userId : ℤ} {site : Json} {issued expires : ℤ}
    (hsite : ∀ levels, Legible levels site) (hi : IntegerLiteral.Fits issued)
    (he : IntegerLiteral.Fits expires) :
    Legible maxDepth (.object (payloadMembers issuer userId site issued expires)) := by
  refine .object (by simp [payloadMembers]) fun m hm => ?_
  simp only [payloadMembers, List.mem_cons, List.not_mem_nil, or_false] at hm
  rcases hm with rfl | rfl | rfl | rfl | rfl
  · exact .text _
  · exact .text _
  · exact hsite _
  · exact .int hi
  · exact .int he

/-- The bytes of a segment that hold a value. -/
def segmentBytes (v : Json) : Bytes := utf8 (v.writeChars .compact)

theorem bytesOf_encode (part : TokenPart) (bytes : Bytes) :
    bytesOf part (Base64Url.encode bytes) = .ok bytes := by
  unfold bytesOf
  rw [Base64Url.decode?_encode]

theorem bytesOf_segment (part : TokenPart) (v : Json) :
    bytesOf part (segment v) = .ok (segmentBytes v) :=
  bytesOf_encode part _

theorem objectOf_segmentBytes (part : TokenPart) {members : List (String × Json)}
    (h : Legible maxDepth (.object members)) :
    objectOf part (segmentBytes (.object members)) = .ok members := by
  unfold objectOf segmentBytes
  rw [readDocument_write Layout.blank_compact rfl h]

/-! ### The checks of header and signature -/

def headerMembers (algorithm : String) : List (String × Json) :=
  [("alg", .text algorithm), ("typ", .text "JWT")]

theorem objectOf_header (algorithm : String) :
    objectOf .header (segmentBytes (header algorithm)) = .ok (headerMembers algorithm) :=
  objectOf_segmentBytes .header (legible_header algorithm)

theorem lookup_header (algorithm name : String) :
    Json.lookup name (headerMembers algorithm) =
      if name = "typ" then some (.text "JWT")
      else if name = "alg" then some (.text algorithm) else none := by
  unfold Json.lookup headerMembers
  by_cases ht : name = "typ"
  · simp [ht]
  · by_cases ha : name = "alg"
    · simp [ha]
    · simp [ht, ha, Ne.symm ht, Ne.symm ha]

theorem header_plain (algorithm : String) :
    isDetached (headerMembers algorithm) = false ∧
      checkKeyId (headerMembers algorithm) = .ok () ∧
      checkCritical (headerMembers algorithm) = .ok () := by
  unfold isDetached checkKeyId checkCritical payloadEncoding
  simp [lookup_header]

/-- The algorithm that a header names must be that of the deployment. -/
theorem checkAlgorithm_header (ha : SigningAlgorithm.ofName? c₁.algorithm = some a)
    (hu : Secret.usable c₂.secret = true) :
    checkAlgorithm c₂ (headerMembers c₁.algorithm) =
      if c₁.algorithm = c₂.algorithm then .ok (.keyed a) else refuse .algorithmNotAllowed := by
  have hempty : c₁.algorithm ≠ "" := by
    intro h
    rw [h] at ha
    cases ha
  have hsigner := SigningAlgorithm.signer_ofName? ha
  unfold checkAlgorithm
  rw [lookup_header]
  simp only [show ("alg" : String) ≠ "typ" by decide, if_false, if_true]
  by_cases heq : c₁.algorithm = c₂.algorithm
  · have hsame : signer c₂ = .ok (.keyed a) := signer_of_usable (heq ▸ ha) hu
    simp [heq ▸ hempty, heq, heq ▸ hsigner, hsame]
  · simp [heq]

/-- What a token signs: its header and its payload. -/
def signingInput (algorithm : String) (v : Json) : List Char :=
  segment (header algorithm) ++ '.' :: segment v

/-- Two deployments have the same tag for a text. -/
def SameTag (c₁ c₂ : SessionConfig) (a : SigningAlgorithm) (input : List Char) : Prop :=
  a.sign c₁.secret (utf8 input) = a.sign c₂.secret (utf8 input)

theorem SameTag.refl {cfg : SessionConfig} (input : List Char) : SameTag cfg cfg a input := rfl

instance (input : List Char) : Decidable (SameTag c₁ c₂ a input) :=
  inferInstanceAs (Decidable (_ = _))

/-- **A token that was put together is taken apart**, and judged by its algorithm and its
signature. -/
theorem signedClaims_assemble (ha : SigningAlgorithm.ofName? c₁.algorithm = some a)
    (hu : Secret.usable c₂.secret = true) {v : Json} {members : List (String × Json)}
    (hv : objectOf .payload (segmentBytes v) = .ok members) :
    signedClaims c₂ (assemble (.keyed a) c₁ v) =
      if c₁.algorithm = c₂.algorithm then
        if SameTag c₁ c₂ a (signingInput c₁.algorithm v) then .ok members else refuse .signature
      else refuse .algorithmNotAllowed := by
  have hsplit : splitSegments? (assemble (.keyed a) c₁ v).toList =
      some ⟨segment (header c₁.algorithm), segment v,
        Base64Url.encode (a.sign c₁.secret (utf8 (signingInput c₁.algorithm v)))⟩ := by
    unfold assemble
    rw [String.toList_ofList]
    exact splitSegments?_join (Base64Url.point_not_mem_encode _) (Base64Url.point_not_mem_encode _)
  obtain ⟨hdetached, hkey, hcritical⟩ := header_plain c₁.algorithm
  have hverify : (Signer.keyed a).verifies c₂.secret (utf8 (signingInput c₁.algorithm v))
      (a.sign c₁.secret (utf8 (signingInput c₁.algorithm v))) =
        decide (SameTag c₁ c₂ a (signingInput c₁.algorithm v)) := by
    rw [Bool.eq_iff_iff, decide_eq_true_iff]
    exact beq_iff_eq
  unfold signedClaims
  rw [hsplit]
  unfold Segments.claims
  simp only [bytesOf_segment, bytesOf_encode, ok_bind, objectOf_header, hdetached, hkey, hcritical,
    Bool.false_and, Bool.false_eq_true, if_false, checkAlgorithm_header ha hu]
  by_cases heq : c₁.algorithm = c₂.algorithm
  · rw [if_pos heq, if_pos heq, ok_bind]
    change (if (!(Signer.keyed a).verifies c₂.secret (utf8 (signingInput c₁.algorithm v)) _) = true
      then _ else _) = _
    rw [hverify, hv]
    by_cases htag : SameTag c₁ c₂ a (signingInput c₁.algorithm v)
    · simp [htag]
    · simp [htag, refuse, error_bind]
  · rw [if_neg heq, if_neg heq]
    rfl

/-! ### The checks of the claims -/

section payload

variable (issuer : String) (userId : ℤ) (site : Json) (issued expires : ℤ)

theorem claims_payload :
    claim (payloadMembers issuer userId site issued expires) "iss" = .text issuer ∧
      claim (payloadMembers issuer userId site issued expires) "sub" = .text (decimal userId) ∧
      claim (payloadMembers issuer userId site issued expires) "site" = site ∧
      claim (payloadMembers issuer userId site issued expires) "iat" = .int issued ∧
      claim (payloadMembers issuer userId site issued expires) "exp" = .int expires := by
  simp [claim, Json.lookup, payloadMembers]

theorem lookup_payload_none :
    Json.lookup "nbf" (payloadMembers issuer userId site issued expires) = none ∧
      Json.lookup "aud" (payloadMembers issuer userId site issued expires) = none ∧
      Json.lookup "jti" (payloadMembers issuer userId site issued expires) = none := by
  simp [Json.lookup, payloadMembers]

theorem payload_complete {site : Json} (hsite : site ≠ .null) :
    requiredClaims.forM (checkPresent (payloadMembers issuer userId site issued expires)) =
      .ok () := by
  simp [requiredClaims, checkPresent, Json.lookup, payloadMembers, ok_bind]

/-- **Claims as they are issued** are checked against the clock, and their issuer is looked at. -/
theorem checkClaims_payload {site : Json} (hsite : site ≠ .null) (cfg : SessionConfig)
    (now : UtcTime) :
    checkClaims cfg (payloadMembers issuer userId site issued expires) (.ok now) =
      if ¬reached (reading now.micros) issued = true then refuse .issuedLater
      else if reached (reading now.micros) expires = true then refuse .expired
      else if issuer = cfg.issuer then .ok () else refuse .issuerOther := by
  obtain ⟨hiss, hsub, -, hiat, hexp⟩ := claims_payload issuer userId site issued expires
  obtain ⟨hnbf, haud, hjti⟩ := lookup_payload_none issuer userId site issued expires
  have hnone : claim (payloadMembers issuer userId site issued expires) "aud" = .null := by
    unfold claim
    rw [haud]
    rfl
  rw [checkClaims_eq, payload_complete issuer userId issued expires hsite, ok_bind]
  change checkAt cfg _ (reading now.micros) = _
  unfold checkAt checkIssued checkNotBefore checkExpiry checkIssuer checkAudience checkSubject
    checkId integerClaim
  simp only [hiss, hsub, hiat, hexp, hnbf, hjti, hnone, toInteger, ok_bind, isText, if_true,
    truthy, Bool.false_eq_true, if_false]
  by_cases hi : reached (reading now.micros) issued = true
  case neg =>
    rw [if_neg hi, if_pos hi]
    rfl
  rw [if_pos hi, if_neg (not_not.2 hi)]
  by_cases he : reached (reading now.micros) expires = true
  case pos =>
    rw [if_pos he, if_pos he]
    rfl
  rw [if_neg he, if_neg he]
  by_cases hs : issuer = cfg.issuer
  · rw [if_pos (by simpa using hs), if_pos hs]
    rfl
  · rw [if_neg (by simpa using hs), if_neg hs]
    rfl

theorem toInteger_decimal {n : ℤ} (h : IntegerLiteral.Fits n) :
    toInteger (.text (decimal n)) = .ok n := by
  unfold toInteger decimal
  dsimp only
  rw [String.toList_ofList, IntegerLiteral.read_writeInt h]

theorem vouched_payload {claims : SessionClaims} (hu : IntegerLiteral.Fits claims.userId) :
    vouched (payloadMembers issuer claims.userId (.int claims.siteId) issued expires) =
      .ok claims := by
  obtain ⟨-, hsub, hsite, -, -⟩ :=
    claims_payload issuer claims.userId (.int claims.siteId) issued expires
  unfold vouched
  rw [hsub, hsite, idClaim_of_ok (toInteger_decimal hu), ok_bind,
    idClaim_of_ok (n := claims.siteId) rfl, ok_bind]
  rfl

end payload

end Gatehouse.SessionToken
