import Gatehouse.Codec.Base64Url
import Gatehouse.Failure
import Gatehouse.Json.Writer
import Gatehouse.Session.Config
import Gatehouse.Time.ProcessClock

/-! # Issuing session tokens

A token is a header, a payload and a signature of both, each in base 64, with points between. It
is valid from the second in which it was issued for as long as it is to live. -/

namespace Gatehouse.SessionToken

open Text

/-- The header of a token that is signed so. -/
def header (algorithm : String) : Json :=
  .object [("alg", .text algorithm), ("typ", .text "JWT")]

/-- An id as a text. -/
def decimal (n : Int) : String := String.ofList (Json.writeInt n)

/-- The payload of a token, with the seconds of its issue and its end. -/
def payload (issuer : String) (claims : SessionClaims) (issued expires : Int) : Json :=
  .object
    [("iss", .text issuer), ("sub", .text (decimal claims.userId)), ("site", .int claims.siteId),
      ("iat", .int issued), ("exp", .int expires)]

/-- A part of a token. -/
def segment (v : Json) : List Char :=
  Base64Url.encode (utf8 (v.writeChars .compact))

/-- The whole seconds that a clock shows. -/
def wholeSeconds (micros : Int) : Int := (clockSeconds micros).trunc?.getD 0

/-- The signature as text. -/
def signature (a : Signer) (secret : String) (input : List Char) : List Char :=
  Base64Url.encode (a.sign secret (utf8 input))

/-- The token with a payload. -/
def assemble (a : Signer) (cfg : SessionConfig) (v : Json) : String :=
  let input := segment (header cfg.algorithm) ++ '.' :: segment v
  String.ofList (input ++ '.' :: signature a cfg.secret input)

/-- The moment after so long, if a clock can show it. -/
def moment (now : UtcTime) (ttl : Duration) : Except Failure UtcTime :=
  match UtcTime.ofMicros? (now.micros + ttl.micros) with
  | some t => .ok t
  | none => .error (.overflow "date value out of range")

/-- What is told of an algorithm that cannot be used. -/
def unknownAlgorithm (name : String) : String :=
  if SigningAlgorithm.unavailable.contains name then
    "Algorithm '" ++ name ++ "' could not be found. Do you have cryptography installed?"
  else "Algorithm not supported"

/-- How the deployment signs, if its algorithm is known and the secret can be its key. -/
def signer (cfg : SessionConfig) : Except Failure Signer :=
  match Signer.ofName? cfg.algorithm with
  | none => .error (.notImplemented (unknownAlgorithm cfg.algorithm))
  | some a => if a.fits cfg.secret then .ok a else .error .invalidKey

/-- Issues a token that lives for `ttl` from now. -/
def issue (cfg : SessionConfig) (claims : SessionClaims) (now : Reading) (ttl : Duration) :
    Except Failure String := do
  let now ← now
  let expires ← moment now ttl
  let a ← signer cfg
  return assemble a cfg
    (payload cfg.issuer claims (wholeSeconds now.micros) (wholeSeconds expires.micros))

end Gatehouse.SessionToken
