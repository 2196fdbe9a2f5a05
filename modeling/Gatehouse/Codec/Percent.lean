import Gatehouse.Text.Bytes

/-! # Percent-encoding

A byte that may not stand in a URL is written as a percent sign and two hexadecimal digits. -/

namespace Gatehouse.Percent

open Text

/-- Whether a byte is a letter or a digit of ASCII. -/
def isAsciiAlnum (n : Nat) : Bool :=
  (48 ≤ n && n ≤ 57) || (65 ≤ n && n ≤ 90) || (97 ≤ n && n ≤ 122)

/-- Characters that stand for themselves in a URL, a percent sign among them, so that what is
encoded already stays as it is. -/
def urlSafe : List Char := "_.-~:/%#?=@[]!$&'()*+,;".toList

def upperHexDigit (n : Nat) : Char := (Nat.digitChar n).toUpper

/-- A byte as it is if it may stand so, else by its two digits. -/
def encodeByte (safe : List Char) (b : UInt8) : List Char :=
  let n := b.toNat
  if isAsciiAlnum n || safe.contains (Char.ofNat n) && n < 128 then [Char.ofNat n]
  else ['%', upperHexDigit (n / 16), upperHexDigit (n % 16)]

/-- The URL with every byte that is not safe encoded. -/
def encodeUrl (s : String) : String :=
  String.ofList ((utf8 s.toList).flatMap (encodeByte urlSafe))

end Gatehouse.Percent
