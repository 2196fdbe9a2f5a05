import Gatehouse.Codec.Base64Url
import Gatehouse.Json.Document
import Gatehouse.Session.Issue
import Gatehouse.Session.TokenFault

/-! # Reading session tokens

A token is taken apart, its header looked at, its signature checked, and only then its claims. It
is accepted from the second of its issue up to, not including, the second in which it expires. -/

namespace Gatehouse.SessionToken

open Text

/-- Refuses a token. -/
def refuse (f : TokenFault) : Except Failure α := .error (.sessionToken f.message)

/-! ### Segments -/

/-- The three parts of a token, as they travel. -/
structure Segments where
  header : List Char
  payload : List Char
  signature : List Char
  deriving DecidableEq, Repr

/-- What stands before and after the first point. -/
def splitFirst (s : List Char) : Option (List Char × List Char) :=
  if s.contains '.' then some (s.takeWhile (· != '.'), (s.dropWhile (· != '.')).drop 1) else none

/-- What stands before and after the last point. -/
def splitLast (s : List Char) : Option (List Char × List Char) :=
  (splitFirst s.reverse).map fun (after, before) => (before.reverse, after.reverse)

/-- The parts of a token. -/
def splitSegments? (s : List Char) : Option Segments := do
  let (input, signature) ← splitLast s
  let (header, payload) ← splitFirst input
  return ⟨header, payload, signature⟩

/-- What a part carries. -/
def bytesOf (part : TokenPart) (s : List Char) : Except Failure Bytes :=
  match Base64Url.decode? s with
  | some bytes => .ok bytes
  | none => refuse (.padding part)

/-- A part that is a JSON object, given by its members. -/
def objectOf (part : TokenPart) (bytes : Bytes) : Except Failure (List (String × Json)) :=
  match Json.readDocument bytes with
  | .error _ => refuse (.unreadable part)
  | .ok (.object members) => .ok members
  | .ok _ => refuse (.notAnObject part)

/-! ### The header -/

/-- Whether a value is a text, with surrogates or not. -/
def isText : Json → Bool
  | .text _ | .brokenText _ => true
  | _ => false

/-- The one extension that a header may call critical. -/
def payloadEncoding : String := "b64"

/-- Checks one of the extensions that the header calls critical. -/
def checkCriticalName (header : List (String × Json)) : Json → Except Failure Unit
  | .text name =>
    if name != payloadEncoding then refuse (.criticalUnsupported name)
    else if (Json.lookup name header).isNone then refuse (.criticalMissing name)
    else .ok ()
  | .brokenText points => refuse (.criticalUnsupported (Json.nameOf points))
  | _ => refuse .criticalNotText

/-- Checks the extensions that the header calls critical. -/
def checkCritical (header : List (String × Json)) : Except Failure Unit :=
  match Json.lookup "crit" header with
  | none => .ok ()
  | some (.list []) => refuse .criticalNotList
  | some (.list names) => names.forM (checkCriticalName header)
  | some _ => refuse .criticalNotList

/-- The payload of such a token travels apart from it. -/
def isDetached (header : List (String × Json)) : Bool :=
  match Json.lookup payloadEncoding header with
  | some (.bool false) => true
  | _ => false

/-- The id of the key, if there is one, is a text. -/
def checkKeyId (header : List (String × Json)) : Except Failure Unit :=
  match Json.lookup "kid" header with
  | none => .ok ()
  | some v => if isText v then .ok () else refuse .keyId

/-- The algorithm that the header names; it must be the one that the deployment has chosen. -/
def checkAlgorithm (cfg : SessionConfig) (header : List (String × Json)) :
    Except Failure Signer :=
  match Json.lookup "alg" header with
  | none => refuse .algorithmMissing
  | some v =>
    match v with
    | .text name =>
      if name.isEmpty || name != cfg.algorithm then refuse .algorithmNotAllowed
      else if (Signer.ofName? name).isNone then refuse .algorithmUnsupported
      else signer cfg
    | _ => refuse .algorithmNotAllowed

/-! ### Claims -/

/-- A claim as an integer: numbers lose their fraction, text is read. -/
def toInteger : Json → Except NotInteger Int
  | .int n => .ok n
  | .bool b => .ok (if b then 1 else 0)
  | .float x =>
    match x with
    | .notANumber => .error .notANumber
    | .infinite _ => .error .infinite
    | x => .ok (x.trunc?.getD 0)
  | .text s =>
    match IntegerLiteral.read s.toList with
    | .ok n => .ok n
    | .error .malformed => .error (.literal (s.toList.map Char.toNat))
    | .error (.tooLong digits) => .error (.tooLong digits)
  | .brokenText points => .error (.literal points)
  | v => .error (.ofKind v.kindName)

/-- The claims that no token may miss. -/
def requiredClaims : List String := ["exp", "iat", "iss", "sub", "site"]

/-- A claim of that name is there. -/
def checkPresent (payload : List (String × Json)) (name : String) : Except Failure Unit :=
  match Json.lookup name payload with
  | none | some .null => refuse (.missingClaim name)
  | some _ => .ok ()

/-- The claim of a name. -/
def claim (payload : List (String × Json)) (name : String) : Json :=
  (Json.lookup name payload).getD .null

/-- A claim that is to be an integer. -/
def integerClaim (v : Json) (fault : TokenFault) : Except Failure Int :=
  match toInteger v with
  | .ok n => .ok n
  | .error _ => refuse fault

/-- The clock has reached a whole second. -/
def reached (now : Rat) (second : Int) : Bool := (second : Rat) ≤ now

/-- The token has been issued by now. -/
def checkIssued (payload : List (String × Json)) (now : Rat) : Except Failure Unit := do
  let n ← integerClaim (claim payload "iat") .issuedNotInteger
  if reached now n then return () else refuse .issuedLater

/-- The token does not start later. -/
def checkNotBefore (payload : List (String × Json)) (now : Rat) : Except Failure Unit :=
  match Json.lookup "nbf" payload with
  | none => .ok ()
  | some v => do
    let n ← integerClaim v .notBeforeNotInteger
    if reached now n then return () else refuse .notBeforeLater

/-- The token has not expired. -/
def checkExpiry (payload : List (String × Json)) (now : Rat) : Except Failure Unit := do
  let n ← integerClaim (claim payload "exp") .expiryNotInteger
  if reached now n then refuse .expired else return ()

/-- The issuer is the one of the deployment. -/
def checkIssuer (cfg : SessionConfig) (payload : List (String × Json)) : Except Failure Unit :=
  match claim payload "iss" with
  | .text s => if s == cfg.issuer then .ok () else refuse .issuerOther
  | .brokenText _ => refuse .issuerOther
  | _ => refuse .issuerNotText

/-- The token is for no audience. -/
def checkAudience (payload : List (String × Json)) : Except Failure Unit :=
  if (claim payload "aud").truthy then refuse .audience else .ok ()

/-- The subject is a text. -/
def checkSubject (payload : List (String × Json)) : Except Failure Unit :=
  if isText (claim payload "sub") then .ok () else refuse .subjectNotText

/-- The id of the token, if there is one, is a text. -/
def checkId (payload : List (String × Json)) : Except Failure Unit :=
  match Json.lookup "jti" payload with
  | none => .ok ()
  | some v => if isText v then .ok () else refuse .idNotText

/-- Whether the claims hold now. The clock is read only if none is missing. -/
def checkClaims (cfg : SessionConfig) (payload : List (String × Json)) (now : Reading) :
    Except Failure Unit := do
  requiredClaims.forM (checkPresent payload)
  let now ← now
  let now := (clockSeconds now.micros).toRat?.getD 0
  checkIssued payload now
  checkNotBefore payload now
  checkExpiry payload now
  checkIssuer cfg payload
  checkAudience payload
  checkSubject payload
  checkId payload

/-- An id among the claims. An infinite one is no fault of the token but breaks the work. -/
def idClaim (v : Json) : Except Failure Int :=
  match toInteger v with
  | .ok n => .ok n
  | .error .infinite => .error (.overflow NotInteger.infinite.message)
  | .error reason => refuse (.malformedClaims reason)

/-! ### The whole token -/

/-- The claims of a token that is valid now. -/
def decode (cfg : SessionConfig) (token : String) (now : Reading) :
    Except Failure SessionClaims := do
  match splitSegments? token.toList with
  | none => refuse .segments
  | some s =>
    let headerBytes ← bytesOf .header s.header
    let header ← objectOf .header headerBytes
    if isDetached header && !s.payload.isEmpty then refuse .attachedPayload
    let payloadBytes ← bytesOf .payload s.payload
    let given ← bytesOf .signature s.signature
    checkKeyId header
    checkCritical header
    if isDetached header then refuse .detachedPayload
    let algorithm ← checkAlgorithm cfg header
    let message := utf8 (s.header ++ '.' :: s.payload)
    if !algorithm.verifies cfg.secret message given then refuse .signature
    let payload ← objectOf .payload payloadBytes
    checkClaims cfg payload now
    let userId ← idClaim (claim payload "sub")
    let siteId ← idClaim (claim payload "site")
    return ⟨userId, siteId⟩

end Gatehouse.SessionToken
