import Gatehouse.Text.Bytes

/-! # Encodings of a document

A document that travels as bytes is in UTF-8, UTF-16 or UTF-32. Its first bytes tell in which: a
mark, or the zeros around a character of ASCII. A surrogate without a partner is read as it
stands, as a code point that is no character. -/

namespace Gatehouse.Text

/-- The encodings that JSON may come in. -/
inductive Encoding
  | utf8
  | utf16 (bigEndian : Bool)
  | utf32 (bigEndian : Bool)
  deriving DecidableEq, Repr

def isHighSurrogate (n : Nat) : Bool := 0xD800 ≤ n && n < 0xDC00

def isLowSurrogate (n : Nat) : Bool := 0xDC00 ≤ n && n < 0xE000

def isSurrogate (n : Nat) : Bool := isHighSurrogate n || isLowSurrogate n

/-- Joins each high surrogate with the low one right after it. -/
def joinSurrogates : List Nat → List Nat
  | [] => []
  | [n] => [n]
  | h :: l :: rest =>
    if isHighSurrogate h && isLowSurrogate l then
      (0x10000 + (h - 0xD800) * 0x400 + (l - 0xDC00)) :: joinSurrogates rest
    else h :: joinSurrogates (l :: rest)

namespace Encoding

/-! ### Which encoding -/

/-- The encoding of a document without a mark, whose first character is one of ASCII. -/
def guess : Bytes → Encoding
  | a :: b :: c :: d :: _ =>
    if a == 0 then (if b == 0 then .utf32 true else .utf16 true)
    else if b == 0 then (if c == 0 && d == 0 then .utf32 false else .utf16 false)
    else .utf8
  | [a, b] => if a == 0 then .utf16 true else if b == 0 then .utf16 false else .utf8
  | _ => .utf8

/-- The encoding of a document, and what follows its mark. -/
def detect : Bytes → Encoding × Bytes
  | 0x00 :: 0x00 :: 0xFE :: 0xFF :: rest => (.utf32 true, rest)
  | 0xFF :: 0xFE :: 0x00 :: 0x00 :: rest => (.utf32 false, rest)
  | 0xFE :: 0xFF :: rest => (.utf16 true, rest)
  | 0xFF :: 0xFE :: rest => (.utf16 false, rest)
  | 0xEF :: 0xBB :: 0xBF :: rest => (.utf8, rest)
  | bytes => (guess bytes, bytes)

/-! ### Code points -/

/-- The last six bits of a byte that continues a character, if its value is in range. -/
def continuation (least greatest : Nat) (b : UInt8) : Option Nat :=
  if least ≤ b.toNat && b.toNat ≤ greatest then some (b.toNat % 64) else none

/-- What the second byte of a character may be, given the first. -/
def secondRange (first : Nat) : Nat × Nat :=
  if first = 0xE0 then (0xA0, 0xBF)
  else if first = 0xF0 then (0x90, 0xBF)
  else if first = 0xF4 then (0x80, 0x8F)
  else (0x80, 0xBF)

/-- Surrogates are read like other characters of three bytes. -/
def utf8Points : Bytes → Option (List Nat)
  | [] => some []
  | a :: rest =>
    let n := a.toNat
    let (least, greatest) := secondRange n
    if n < 0x80 then do return n :: (← utf8Points rest)
    else if 0xC2 ≤ n && n ≤ 0xDF then
      match rest with
      | b :: rest => do
        let b ← continuation least greatest b
        return (n % 32 * 64 + b) :: (← utf8Points rest)
      | _ => none
    else if 0xE0 ≤ n && n ≤ 0xEF then
      match rest with
      | b :: c :: rest => do
        let b ← continuation least greatest b
        let c ← continuation 0x80 0xBF c
        return ((n % 16 * 64 + b) * 64 + c) :: (← utf8Points rest)
      | _ => none
    else if 0xF0 ≤ n && n ≤ 0xF4 then
      match rest with
      | b :: c :: d :: rest => do
        let b ← continuation least greatest b
        let c ← continuation 0x80 0xBF c
        let d ← continuation 0x80 0xBF d
        return (((n % 8 * 64 + b) * 64 + c) * 64 + d) :: (← utf8Points rest)
      | _ => none
    else none

/-- Two bytes each. -/
def utf16Units (bigEndian : Bool) : Bytes → Option (List Nat)
  | [] => some []
  | a :: b :: rest => do
    let unit := if bigEndian then a.toNat * 256 + b.toNat else b.toNat * 256 + a.toNat
    return unit :: (← utf16Units bigEndian rest)
  | _ => none

/-- Four bytes each, none beyond the last character. -/
def utf32Points (bigEndian : Bool) : Bytes → Option (List Nat)
  | [] => some []
  | a :: b :: c :: d :: rest =>
    let read (a b c d : UInt8) : Nat :=
      ((a.toNat * 256 + b.toNat) * 256 + c.toNat) * 256 + d.toNat
    let n := if bigEndian then read a b c d else read d c b a
    if n ≤ 0x10FFFF then do return n :: (← utf32Points bigEndian rest) else none
  | _ => none

/-- The code points of bytes in an encoding, if they are well-formed. -/
def points : Encoding → Bytes → Option (List Nat)
  | utf8, bytes => utf8Points bytes
  | utf16 bigEndian, bytes => (utf16Units bigEndian bytes).map joinSurrogates
  | utf32 bigEndian, bytes => utf32Points bigEndian bytes

end Encoding

/-- The code points of a document in whatever encoding it is. -/
def documentPoints (bytes : Bytes) : Option (List Nat) :=
  let (encoding, bytes) := Encoding.detect bytes
  encoding.points bytes

end Gatehouse.Text
