import Gatehouse.Proofs.Time.Calendar
import Gatehouse.Session.Decode

/-! # The stages of reading a token

Reading a token ends in one of its stages: when it is opened and its signature is checked
(`signedClaims`), when what it claims is checked (`checkClaims`), or when the ids are taken out of
the claims (`vouched`); `decode_eq` puts them together. Nearly all that can go wrong is a fault of
the token, which is what `Refuses` says. -/

namespace Gatehouse

theorem SigningAlgorithm.signer_ofName? {name : String} {a : SigningAlgorithm}
    (h : SigningAlgorithm.ofName? name = some a) : Signer.ofName? name = some (.keyed a) := by
  have hnone : name ≠ Signer.unsignedName := by
    rintro rfl
    cases h
  unfold Signer.ofName?
  rw [if_neg (by simpa using hnone), h]
  rfl

namespace SessionToken

open Json Text

variable {α β : Type} {cfg : SessionConfig} {members : List (String × Json)}

theorem signer_of_usable {a : SigningAlgorithm}
    (ha : SigningAlgorithm.ofName? cfg.algorithm = some a) (hs : Secret.usable cfg.secret = true) :
    signer cfg = .ok (.keyed a) := by
  unfold signer
  rw [SigningAlgorithm.signer_ofName? ha]
  exact if_pos hs

/-! ### Stages -/

/-- The claims in the segments of a token, once the signature has been checked. -/
def Segments.claims (cfg : SessionConfig) (s : Segments) :
    Except Failure (List (String × Json)) := do
  let headerBytes ← bytesOf .header s.header
  let header ← objectOf .header headerBytes
  if isDetached header && !s.payload.isEmpty then refuse .attachedPayload
  let payloadBytes ← bytesOf .payload s.payload
  let given ← bytesOf .signature s.signature
  checkKeyId header
  checkCritical header
  if isDetached header then refuse .detachedPayload
  let algorithm ← checkAlgorithm cfg header
  if !algorithm.verifies cfg.secret (utf8 (s.header ++ '.' :: s.payload)) given then
    refuse .signature
  objectOf .payload payloadBytes

/-- What a token claims under a signature of the deployment. -/
def signedClaims (cfg : SessionConfig) (token : String) :
    Except Failure (List (String × Json)) :=
  match splitSegments? token.toList with
  | none => refuse .segments
  | some s => s.claims cfg

/-- The ids that checked claims vouch for. -/
def vouched (members : List (String × Json)) : Except Failure SessionClaims := do
  let userId ← idClaim (claim members "sub")
  let siteId ← idClaim (claim members "site")
  return ⟨userId, siteId⟩

theorem ok_bind (x : α) (next : α → Except Failure β) : (.ok x >>= next) = next x := rfl

theorem error_bind (f : Failure) (next : α → Except Failure β) :
    (.error f >>= next) = .error f := rfl

theorem bind_eq_ok {x : Except Failure α} {next : α → Except Failure β} {b : β}
    (h : (x >>= next) = .ok b) : ∃ a, x = .ok a ∧ next a = .ok b := by
  cases x with
  | error f => cases h
  | ok a => exact ⟨a, rfl, h⟩

theorem ite_bind {ε : Type} (p : Prop) [Decidable p] (x y : Except ε α) (f : α → Except ε β) :
    (if p then x else y) >>= f = if p then x >>= f else y >>= f := by
  split <;> rfl

theorem decode_eq (cfg : SessionConfig) (token : String) (now : Reading) :
    decode cfg token now =
      signedClaims cfg token >>= fun members =>
        checkClaims cfg members now >>= fun _ => vouched members := by
  unfold decode signedClaims
  cases splitSegments? token.toList with
  | none => rfl
  | some s =>
    -- the same steps; only where the work is cut differs
    unfold Segments.claims vouched
    simp only [bind_assoc, ite_bind]

/-- The checks of the claims, once the clock has been read. -/
def checkAt (cfg : SessionConfig) (payload : List (String × Json)) (now : Rat) :
    Except Failure Unit := do
  checkIssued payload now
  checkNotBefore payload now
  checkExpiry payload now
  checkIssuer cfg payload
  checkAudience payload
  checkSubject payload
  checkId payload

theorem checkClaims_eq (cfg : SessionConfig) (payload : List (String × Json)) (now : UtcTime) :
    checkClaims cfg payload (.ok now) =
      requiredClaims.forM (checkPresent payload) >>= fun _ =>
        checkAt cfg payload ((clockSeconds now.micros).toRat?.getD 0) := rfl

/-! ### Faults of a token -/

/-- The work fails at most with a fault of the token. -/
def Refuses (x : Except Failure α) : Prop :=
  ∀ f, x = .error f → ∃ fault : TokenFault, f = .sessionToken fault.message

namespace Refuses

theorem ok (a : α) : Refuses (.ok a : Except Failure α) := by
  intro f h
  cases h

theorem refuse (fault : TokenFault) : Refuses (refuse fault : Except Failure α) := by
  intro f h
  exact ⟨fault, (Except.error.inj h).symm⟩

theorem bind {x : Except Failure α} {next : α → Except Failure β} (hx : Refuses x)
    (hnext : ∀ a, x = .ok a → Refuses (next a)) : Refuses (x >>= next) := by
  intro f h
  cases hxa : x with
  | error g =>
    rw [hxa] at h
    exact hx f (hxa.trans (congrArg Except.error (Except.error.inj h)))
  | ok a =>
    rw [hxa] at h
    exact hnext a hxa f h

theorem ite {p : Prop} [Decidable p] {x y : Except Failure α} (hx : p → Refuses x)
    (hy : ¬p → Refuses y) : Refuses (if p then x else y) := by
  split
  · exact hx ‹_›
  · exact hy ‹_›

theorem after {p : Prop} [Decidable p] {fault : TokenFault} {next : α → Except Failure β}
    {x : Except Failure β} (hx : Refuses x) :
    Refuses (if p then SessionToken.refuse fault >>= next else x) :=
  .ite (fun _ => .bind (.refuse _) fun _ h => by cases h) fun _ => hx

theorem forM {f : α → Except Failure Unit} (hf : ∀ a, Refuses (f a)) (l : List α) :
    Refuses (l.forM f) := by
  induction l with
  | nil => exact ok ()
  | cons a l ih => exact (hf a).bind fun _ _ => ih

end Refuses

theorem refuses_bytesOf (part : TokenPart) (s : List Char) : Refuses (bytesOf part s) := by
  unfold bytesOf
  split
  · exact .ok _
  · exact .refuse _

theorem refuses_objectOf (part : TokenPart) (bytes : Bytes) : Refuses (objectOf part bytes) := by
  unfold objectOf
  split
  · exact .refuse _
  · exact .ok _
  · exact .refuse _

theorem refuses_checkKeyId (header : List (String × Json)) : Refuses (checkKeyId header) := by
  unfold checkKeyId
  split
  · exact .ok _
  · exact .ite (fun _ => .ok _) fun _ => .refuse _

theorem refuses_checkCriticalName (header : List (String × Json)) (v : Json) :
    Refuses (checkCriticalName header v) := by
  unfold checkCriticalName
  split
  · exact .ite (fun _ => .refuse _) fun _ => .ite (fun _ => .refuse _) fun _ => .ok _
  · exact .refuse _
  · exact .refuse _

theorem refuses_checkCritical (header : List (String × Json)) : Refuses (checkCritical header) := by
  unfold checkCritical
  split
  · exact .ok _
  · exact .refuse _
  · exact .forM (refuses_checkCriticalName header) _
  · exact .refuse _

/-- A deployment that can sign is never at a loss for its own algorithm. -/
theorem refuses_checkAlgorithm {a : Signer} (hs : signer cfg = .ok a)
    (header : List (String × Json)) : Refuses (checkAlgorithm cfg header) := by
  unfold checkAlgorithm
  split
  · exact .refuse _
  · split
    · rw [hs]
      exact .ite (fun _ => .refuse _) fun _ => .ite (fun _ => .refuse _) fun _ => .ok _
    · exact .refuse _

theorem refuses_signedClaims {a : Signer} (hs : signer cfg = .ok a) (token : String) :
    Refuses (signedClaims cfg token) := by
  unfold signedClaims
  split
  · exact .refuse _
  · rename_i s _
    unfold Segments.claims
    refine .bind (refuses_bytesOf _ _) fun _ _ => .bind (refuses_objectOf _ _) fun header _ => ?_
    refine .after ?_
    refine .bind (refuses_bytesOf _ _) fun _ _ => .bind (refuses_bytesOf _ _) fun _ _ => ?_
    refine .bind (refuses_checkKeyId _) fun _ _ => .bind (refuses_checkCritical _) fun _ _ => ?_
    refine .after ?_
    refine .bind (refuses_checkAlgorithm hs _) fun _ _ => .after ?_
    exact refuses_objectOf _ _

theorem refuses_checkPresent (payload : List (String × Json)) (name : String) :
    Refuses (checkPresent payload name) := by
  unfold checkPresent
  split
  · exact .refuse _
  · exact .refuse _
  · exact .ok _

theorem refuses_integerClaim (v : Json) (fault : TokenFault) : Refuses (integerClaim v fault) := by
  unfold integerClaim
  split
  · exact .ok _
  · exact .refuse _

/-- At any moment, claims are refused for nothing but their own faults. -/
theorem refuses_checkAt (payload : List (String × Json)) (now : Rat) :
    Refuses (checkAt cfg payload now) := by
  have issued : Refuses (checkIssued payload now) := by
    unfold checkIssued
    exact .bind (refuses_integerClaim _ _) fun _ _ => .ite (fun _ => .ok _) fun _ => .refuse _
  have notBefore : Refuses (checkNotBefore payload now) := by
    unfold checkNotBefore
    split
    · exact .ok _
    · exact .bind (refuses_integerClaim _ _) fun _ _ => .ite (fun _ => .ok _) fun _ => .refuse _
  have expiry : Refuses (checkExpiry payload now) := by
    unfold checkExpiry
    exact .bind (refuses_integerClaim _ _) fun _ _ => .ite (fun _ => .refuse _) fun _ => .ok _
  have issuer : Refuses (checkIssuer cfg payload) := by
    unfold checkIssuer
    split
    · exact .ite (fun _ => .ok _) fun _ => .refuse _
    · exact .refuse _
    · exact .refuse _
  have audience : Refuses (checkAudience payload) := by
    unfold checkAudience
    exact .ite (fun _ => .refuse _) fun _ => .ok _
  have subject : Refuses (checkSubject payload) := by
    unfold checkSubject
    exact .ite (fun _ => .ok _) fun _ => .refuse _
  have id : Refuses (checkId payload) := by
    unfold checkId
    split
    · exact .ok _
    · exact .ite (fun _ => .ok _) fun _ => .refuse _
  unfold checkAt
  exact issued.bind fun _ _ => notBefore.bind fun _ _ => expiry.bind fun _ _ =>
    issuer.bind fun _ _ => audience.bind fun _ _ => subject.bind fun _ _ => id

/-! ### What breaks the reading -/

theorem idClaim_of_infinite {v : Json} (h : toInteger v = .error .infinite) :
    idClaim v = .error (.overflow NotInteger.infinite.message) := by
  unfold idClaim
  rw [h]

theorem idClaim_of_ok {v : Json} {n : Int} (h : toInteger v = .ok n) : idClaim v = .ok n := by
  unfold idClaim
  rw [h]

theorem refuses_idClaim {v : Json} (h : toInteger v ≠ .error .infinite) : Refuses (idClaim v) := by
  unfold idClaim
  split
  · exact .ok _
  · exact absurd ‹_› h
  · exact .refuse _

theorem toInteger_ok_of_idClaim {v : Json} {n : Int} (h : idClaim v = .ok n) :
    toInteger v = .ok n := by
  unfold idClaim at h
  split at h
  · rw [← Except.ok.inj h]
    assumption
  · cases h
  · cases h

theorem toInteger_ne_infinite_of_isText {v : Json} (h : isText v = true) :
    toInteger v ≠ .error .infinite := by
  cases v with
  | text s =>
    unfold toInteger
    dsimp only
    split <;> simp
  | brokenText points => simp [toInteger]
  | _ => cases h

/-- Checked claims are about a subject that is text. -/
theorem isText_subject {now : UtcTime} (h : checkClaims cfg members (.ok now) = .ok ()) :
    isText (claim members "sub") = true := by
  rw [checkClaims_eq] at h
  obtain ⟨_, -, h⟩ := bind_eq_ok h
  unfold checkAt at h
  obtain ⟨_, -, h⟩ := bind_eq_ok h
  obtain ⟨_, -, h⟩ := bind_eq_ok h
  obtain ⟨_, -, h⟩ := bind_eq_ok h
  obtain ⟨_, -, h⟩ := bind_eq_ok h
  obtain ⟨_, -, h⟩ := bind_eq_ok h
  obtain ⟨_, hsubject, -⟩ := bind_eq_ok h
  unfold checkSubject at hsubject
  split at hsubject
  · assumption
  · cases hsubject

/-- What breaks the reading of a token, without being a fault of it: the site is infinite, and all
else is as it should be. -/
structure Breaks (cfg : SessionConfig) (token : String) (now : UtcTime) : Prop where
  exists_members : ∃ members, signedClaims cfg token = .ok members ∧
    checkClaims cfg members (.ok now) = .ok () ∧
    (∃ n, toInteger (claim members "sub") = .ok n) ∧
    toInteger (claim members "site") = .error .infinite

theorem Breaks.decode {token : String} {now : UtcTime} (h : Breaks cfg token now) :
    ∃ message, decode cfg token (.ok now) = .error (.overflow message) := by
  obtain ⟨members, signed, checked, ⟨n, hn⟩, infinite⟩ := h.exists_members
  refine ⟨NotInteger.infinite.message, ?_⟩
  rw [decode_eq, signed, ok_bind, checked, ok_bind]
  unfold vouched
  rw [idClaim_of_ok hn, ok_bind, idClaim_of_infinite infinite, error_bind]

/-- **Nothing else breaks it**: while the clock can be read, a token is read or refused for a fault
of its own. -/
theorem refuses_decode {a : Signer} (hs : signer cfg = .ok a) {token : String} {now : UtcTime}
    (h : ¬Breaks cfg token now) : Refuses (SessionToken.decode cfg token (.ok now)) := by
  rw [decode_eq]
  refine .bind (refuses_signedClaims hs token) fun members signed => ?_
  refine .bind ?_ fun _ checked => ?_
  · rw [checkClaims_eq]
    exact .bind (.forM (refuses_checkPresent members) _) fun _ _ => refuses_checkAt _ _
  · unfold vouched
    have hsub := toInteger_ne_infinite_of_isText (isText_subject checked)
    refine .bind (refuses_idClaim hsub) fun n hn => .bind (refuses_idClaim ?_) fun _ _ => .ok _
    intro infinite
    exact h ⟨members, signed, checked, ⟨n, toInteger_ok_of_idClaim hn⟩, infinite⟩

end SessionToken

end Gatehouse
