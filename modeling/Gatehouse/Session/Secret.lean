import Gatehouse.Text.Search

/-! # Secrets

A secret signs and checks tokens alike. A text that is the public half of some other kind of key
would let anybody sign, so nothing that looks like a key file, a line of a list of known hosts or
a key as a JSON document is taken for a secret. -/

namespace Gatehouse.Secret

open Text

/-- Whether the text or a part of it up to its end passes. -/
def anyTail (p : List Char → Bool) : List Char → Bool
  | [] => p []
  | c :: rest => p (c :: rest) || anyTail p rest

/-! ### Key files -/

/-- What a key file may hold. -/
def fileKinds : List String :=
  ["CERTIFICATE", "TRUSTED CERTIFICATE", "PRIVATE KEY", "PUBLIC KEY", "ENCRYPTED PRIVATE KEY",
    "OPENSSH PRIVATE KEY", "DSA PRIVATE KEY", "RSA PRIVATE KEY", "RSA PUBLIC KEY",
    "EC PRIVATE KEY", "DH PARAMETERS", "NEW CERTIFICATE REQUEST", "CERTIFICATE REQUEST",
    "SSH2 PUBLIC KEY", "SSH2 ENCRYPTED PRIVATE KEY", "X509 CRL"]

/-- What follows a text at the start of another. -/
def after? (start s : List Char) : Option (List Char) :=
  if start.isPrefixOf s then some (s.drop start.length) else none

/-- What follows a dash or a blank. -/
def dashOrSpace : List Char → Option (List Char)
  | c :: rest => if c == '-' || c == ' ' then some rest else none
  | [] => none

def dashes : List Char := ['-', '-', '-', '-']

/-- What follows the line that opens or closes a key file. -/
def afterLine? (word kind : String) (s : List Char) : Option (List Char) := do
  let s ← after? dashes s
  let s ← dashOrSpace s
  let s ← after? (word.toList ++ ' ' :: kind.toList) s
  let s ← dashOrSpace s
  after? dashes s

/-- Whether a file of that kind is opened here and closed later, with something between. -/
def holdsFile (kind : String) (s : List Char) : Bool :=
  match afterLine? "BEGIN" kind s with
  | some (_ :: rest) => anyTail (fun s => (afterLine? "END" kind s).isSome) rest
  | _ => false

/-- Whether a secret holds the frame of a key file. -/
def looksLikeFile (s : List Char) : Bool :=
  anyTail (fun s => fileKinds.any fun kind => holdsFile kind s) s

/-! ### Keys on one line -/

/-- The kinds of keys that stand on one line. -/
def lineKinds : List String :=
  ["ssh-ed25519", "ssh-rsa", "ssh-dss", "ecdsa-sha2-nistp256", "ecdsa-sha2-nistp384",
    "ecdsa-sha2-nistp521"]

def certificateEnd : String := "-cert-v01@openssh.com"

def isAsciiBlank (c : Char) : Bool := c == ' ' || (9 ≤ c.toNat && c.toNat ≤ 13)

/-- Whether the text starts with the kind of a certificate, and something else on that line. -/
def startsWithCertificate (s : List Char) : Bool :=
  let kind := s.takeWhile fun c => !isAsciiBlank c
  let rest := s.dropWhile fun c => !isAsciiBlank c
  let separated := match rest with
    | c :: _ => c == ' ' || c == '\t'
    | [] => false
  let more := match rest.dropWhile fun c => c == ' ' || c == '\t' with
    | c :: _ => !isAsciiBlank c
    | [] => false
  certificateEnd.toList.isSuffixOf kind && separated && more

/-- Whether a secret holds a key that stands on one line. -/
def looksLikeLine (s : List Char) : Bool :=
  lineKinds.any (fun kind => occursIn kind.toList s) || startsWithCertificate s

/-! ### Keys as documents -/

def keyTypeMember : List Char := "\"kty\"".toList

/-- Whether the text looks like an object or a list that tells the type of a key. -/
def looksLikeDocument (s : List Char) : Bool :=
  match s.dropWhile isAsciiBlank with
  | c :: _ => (c == '\x7b' || c == '[') && occursIn keyTypeMember s
  | [] => false

/-- Whether the text can be a secret. -/
def usable (secret : String) : Bool :=
  let s := secret.toList
  !s.isEmpty && !looksLikeFile s && !looksLikeLine s && !looksLikeDocument s

end Gatehouse.Secret
