import Gatehouse.Json.Basic
import Gatehouse.Number.Shortest
import Gatehouse.Text.Hex

/-! # Writing JSON

A `Layout` holds the decisions of one kind of document: what stands between items and after the
name of a member, and whether everything but the visible characters of ASCII is escaped. -/

namespace Gatehouse.Json

/-- What stands between the parts of a document. -/
structure Layout where
  comma : List Char
  colon : List Char
  /-- Escape every character that ASCII cannot show. -/
  asciiOnly : Bool

namespace Layout

/-- A space after each comma and colon, all text in ASCII. -/
def spaced : Layout := ⟨[',', ' '], [':', ' '], true⟩

/-- No spaces, all text in ASCII. -/
def compact : Layout := ⟨[','], [':'], true⟩

/-- No spaces, text as it is. -/
def compactRaw : Layout := ⟨[','], [':'], false⟩

end Layout

/-- Numbers from a ten-thousandth up to 10^16 are written without an exponent. -/
def floatText : FloatText := ⟨-4, 16, "NaN", "Infinity"⟩

/-- A unit of text by its four digits. -/
def unicodeEscape (n : Nat) : List Char := '\\' :: 'u' :: Hex.write 4 n

/-- A character beyond the first plane is escaped as two surrogates. -/
def escapeWide (n : Nat) : List Char :=
  if n < 0x10000 then unicodeEscape n
  else unicodeEscape (0xD800 + (n - 0x10000) / 0x400) ++
    unicodeEscape (0xDC00 + (n - 0x10000) % 0x400)

/-- A character, or its escape. -/
def escapePoint (asciiOnly : Bool) (n : Nat) : List Char :=
  if n = 34 then ['\\', '"']
  else if n = 92 then ['\\', '\\']
  else if n = 10 then ['\\', 'n']
  else if n = 13 then ['\\', 'r']
  else if n = 9 then ['\\', 't']
  else if n = 12 then ['\\', 'f']
  else if n = 8 then ['\\', 'b']
  else if n < 32 then unicodeEscape n
  else if asciiOnly && decide (126 < n) then escapeWide n
  else [Char.ofNat n]

/-- A text by the numbers of its characters. -/
def writePoints (asciiOnly : Bool) (points : List Nat) : List Char :=
  '"' :: (points.flatMap (escapePoint asciiOnly) ++ ['"'])

def writeText (asciiOnly : Bool) (s : String) : List Char :=
  writePoints asciiOnly (s.toList.map Char.toNat)

/-- An integer in decimal digits. -/
def writeInt (n : Int) : List Char :=
  if n < 0 then '-' :: Nat.toDigits 10 n.natAbs else Nat.toDigits 10 n.natAbs

mutual

/-- A value in a layout. -/
def writeChars (layout : Layout) : Json → List Char
  | null => ['n', 'u', 'l', 'l']
  | bool true => ['t', 'r', 'u', 'e']
  | bool false => ['f', 'a', 'l', 's', 'e']
  | int n => writeInt n
  | float x => (floatText.write x).toList
  | text s => writeText layout.asciiOnly s
  | brokenText points => writePoints layout.asciiOnly points
  | list [] => ['[', ']']
  | list (v :: rest) => '[' :: (writeChars layout v ++ writeItems layout rest)
  | object [] => ['\x7b', '\x7d']
  | object ((name, v) :: rest) =>
    '\x7b' :: (writeText layout.asciiOnly name ++ layout.colon ++ writeChars layout v ++
      writeMembers layout rest)

/-- The items after the first, with the closing bracket. -/
def writeItems (layout : Layout) : List Json → List Char
  | [] => [']']
  | v :: rest => layout.comma ++ writeChars layout v ++ writeItems layout rest

/-- The members after the first, with the closing brace. -/
def writeMembers (layout : Layout) : List (String × Json) → List Char
  | [] => ['\x7d']
  | (name, v) :: rest =>
    layout.comma ++ writeText layout.asciiOnly name ++ layout.colon ++ writeChars layout v ++
      writeMembers layout rest

end

def write (layout : Layout) (v : Json) : String :=
  String.ofList (writeChars layout v)

end Gatehouse.Json
