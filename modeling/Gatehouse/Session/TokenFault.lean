import Gatehouse.Text.Quoted
import Gatehouse.Text.IntegerLiteral

/-! # What can be wrong with a session token -/

namespace Gatehouse

/-- The parts of a token. -/
inductive TokenPart
  | header
  | payload
  | signature
  deriving DecidableEq, Repr

/-- A part as it is called in messages. -/
def TokenPart.name : TokenPart → String
  | header => "header"
  | payload => "payload"
  | signature => "crypto"

/-- Why a claim is no integer. -/
inductive NotInteger
  /-- A text, given by its code points, that is no integer literal. -/
  | literal (points : List Nat)
  | tooLong (digits : Nat)
  | notANumber
  | infinite
  | ofKind (kind : String)
  deriving DecidableEq, Repr

/-- At most this much of a literal is quoted. -/
def quotedLength : Nat := 200

/-- Why a text is no integer. -/
def NotInteger.message : NotInteger → String
  | literal points =>
    "invalid literal for int() with base 10: " ++
      String.ofList ((Quoted.writePoints points).take quotedLength)
  | tooLong digits =>
    "Exceeds the limit (" ++ toString IntegerLiteral.maxDigits ++
      " digits) for integer string conversion: value has " ++ toString digits ++
      " digits; use sys.set_int_max_str_digits() to increase the limit"
  | notANumber => "cannot convert float NaN to integer"
  | infinite => "cannot convert float infinity to integer"
  | ofKind kind =>
    "int() argument must be a string, a bytes-like object or a real number, not '" ++ kind ++ "'"

/-- What is wrong with a token. -/
inductive TokenFault
  | segments
  | padding (part : TokenPart)
  | unreadable (part : TokenPart)
  | notAnObject (part : TokenPart)
  | attachedPayload
  | detachedPayload
  | keyId
  | criticalNotList
  | criticalNotText
  | criticalUnsupported (name : String)
  | criticalMissing (name : String)
  | algorithmMissing
  | algorithmNotAllowed
  | algorithmUnsupported
  | signature
  | missingClaim (name : String)
  | issuedNotInteger
  | issuedLater
  | notBeforeNotInteger
  | notBeforeLater
  | expiryNotInteger
  | expired
  | issuerNotText
  | issuerOther
  | audience
  | subjectNotText
  | idNotText
  | malformedClaims (reason : NotInteger)
  deriving DecidableEq, Repr

/-- What is wrong with a token, in words. -/
def TokenFault.message : TokenFault → String
  | segments => "Not enough segments"
  | padding part => "Invalid " ++ part.name ++ " padding"
  | unreadable part => "Invalid " ++ part.name ++ " string"
  | notAnObject part => "Invalid " ++ part.name ++ " string: must be a json object"
  | attachedPayload => "Payload segment must be empty when 'b64' is false."
  | detachedPayload =>
    "It is required that you pass in a value for the \"detached_payload\" argument to decode " ++
      "a message having the b64 header set to false."
  | keyId => "Key ID header parameter must be a string"
  | criticalNotList => "Invalid 'crit' header: must be a non-empty list"
  | criticalNotText => "Invalid 'crit' header: values must be strings"
  | criticalUnsupported name => "Unsupported critical extension: " ++ name
  | criticalMissing name => "Critical extension '" ++ name ++ "' is missing from headers"
  | algorithmMissing => "Algorithm not specified"
  | algorithmNotAllowed => "The specified alg value is not allowed"
  | algorithmUnsupported => "Algorithm not supported"
  | signature => "Signature verification failed"
  | missingClaim name => "Token is missing the \"" ++ name ++ "\" claim"
  | issuedNotInteger => "Issued At claim (iat) must be an integer."
  | issuedLater => "The token is not yet valid (iat)"
  | notBeforeNotInteger => "Not Before claim (nbf) must be an integer."
  | notBeforeLater => "The token is not yet valid (nbf)"
  | expiryNotInteger => "Expiration Time claim (exp) must be an integer."
  | expired => "Signature has expired"
  | issuerNotText => "Payload Issuer (iss) must be a string"
  | issuerOther => "Invalid issuer"
  | audience => "Invalid audience"
  | subjectNotText => "Subject must be a string"
  | idNotText => "JWT ID must be a string"
  | malformedClaims reason => "malformed claims: " ++ reason.message

end Gatehouse
