import Gatehouse.Digest.Hmac
import Gatehouse.Session.Secret
import Gatehouse.Settings.Basic
import Gatehouse.Text.Bytes

/-! # Session tokens: algorithm, issuer, secret

The algorithms that can sign a token, and what a deployment has chosen. The secret signs as its
UTF-8 bytes. A token may also go unsigned, but such a token is never believed. -/

namespace Gatehouse

/-- An algorithm that signs with a secret. -/
inductive SigningAlgorithm
  | hs256
  | hs384
  | hs512
  deriving DecidableEq, Repr

namespace SigningAlgorithm

/-- The algorithm of a name. -/
def ofName? : String → Option SigningAlgorithm
  | "HS256" => some hs256
  | "HS384" => some hs384
  | "HS512" => some hs512
  | _ => none

/-- The signature of a message. -/
def sign (a : SigningAlgorithm) (secret : String) (message : Text.Bytes) : Text.Bytes :=
  let key := Text.utf8 secret.toList
  match a with
  | hs256 => Hmac.tag Sha2.sha256 key message
  | hs384 => Hmac.tag Sha2.sha384 key message
  | hs512 => Hmac.tag Sha2.sha512 key message

/-- Algorithms that are known by name only. -/
def unavailable : List String :=
  ["RS256", "RS384", "RS512", "ES256", "ES256K", "ES384", "ES521", "ES512", "PS256", "PS384",
    "PS512", "EdDSA"]

end SigningAlgorithm

/-- How a token is signed. -/
inductive Signer
  | keyed (a : SigningAlgorithm)
  | unsigned
  deriving DecidableEq, Repr

namespace Signer

/-- The name that stands for no signature. -/
def unsignedName : String := "none"

/-- The way to sign that a name stands for. -/
def ofName? (name : String) : Option Signer :=
  if name == unsignedName then some unsigned else (SigningAlgorithm.ofName? name).map keyed

/-- Nothing but the empty secret goes with no signature. -/
def fits (secret : String) : Signer → Bool
  | keyed _ => Secret.usable secret
  | unsigned => secret.isEmpty

/-- The signature of a message. -/
def sign (signer : Signer) (secret : String) (message : Text.Bytes) : Text.Bytes :=
  match signer with
  | keyed a => a.sign secret message
  | unsigned => []

/-- Whether the signature is that of the message. -/
def verifies (signer : Signer) (secret : String) (message signature : Text.Bytes) : Bool :=
  match signer with
  | keyed a => signature == a.sign secret message
  | unsigned => false

end Signer

/-- What a deployment signs its tokens with. -/
structure SessionConfig where
  algorithm : String
  issuer : String
  secret : String
  deriving DecidableEq, Repr

/-- What the settings say about tokens. -/
def SessionConfig.ofSettings (s : Settings) : SessionConfig :=
  ⟨s.sessionAlgorithm, s.sessionIssuer, s.sessionSecret⟩

/-- What a token vouches for. -/
structure SessionClaims where
  userId : Int
  siteId : Int
  deriving DecidableEq, Repr

/-- What the clock shows, in seconds, at a count of microseconds. -/
def clockSeconds (micros : Int) : Binary64 :=
  Binary64.ofRatio (decide (micros < 0)) micros.natAbs 1000000

end Gatehouse
