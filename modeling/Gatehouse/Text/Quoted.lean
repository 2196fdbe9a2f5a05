import Gatehouse.Text.Hex
import Gatehouse.Text.Printable

/-! # Quoted literals

A text inside a message stands between quotation marks: single ones, unless the text holds a
single quotation mark and no double one. The chosen mark and the backslash are escaped, newline,
tab and carriage return have short forms, and every other hidden character is written by its
number in two, four or eight hexadecimal digits. -/

namespace Gatehouse.Quoted

open Text

/-- The mark that the text is quoted with, given its code points. -/
def mark (points : List Nat) : Char :=
  if points.contains 39 && !points.contains 34 then '"' else '\''

/-- A character between quotes, by its escape if it has to be. -/
def escape (mark : Char) (n : Nat) : List Char :=
  if n = mark.toNat ∨ n = 92 then ['\\', Char.ofNat n]
  else if n = 10 then ['\\', 'n']
  else if n = 9 then ['\\', 't']
  else if n = 13 then ['\\', 'r']
  else if isPrintable n then [Char.ofNat n]
  else if n < 0x100 then '\\' :: 'x' :: Hex.write 2 n
  else if n < 0x10000 then '\\' :: 'u' :: Hex.write 4 n
  else '\\' :: 'U' :: Hex.write 8 n

/-- The literal of a text given by its code points, which may hold a lone surrogate. -/
def writePoints (points : List Nat) : List Char :=
  mark points :: (points.flatMap (escape (mark points)) ++ [mark points])

def write (s : List Char) : List Char :=
  writePoints (s.map Char.toNat)

/-- The text as a quoted literal. -/
def literal (s : String) : String :=
  String.ofList (write s.toList)

end Gatehouse.Quoted
