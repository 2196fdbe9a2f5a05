/-! # Lines

A text is cut into lines after each line feed, carriage return, vertical tab, form feed,
information separator of the first three ranks, next line, and line or paragraph separator. A
line feed right after a carriage return belongs to it. What ends a line is no part of it. -/

namespace Gatehouse.Text

/-- The characters that end a line. -/
def lineEnds : List Nat := [0x0A, 0x0B, 0x0C, 0x0D, 0x1C, 0x1D, 0x1E, 0x85, 0x2028, 0x2029]

def isLineEnd (c : Char) : Bool := lineEnds.contains c.toNat

/-- The lines of a text whose first line began with `begun`, read backward. -/
def linesAfter (begun : List Char) : List Char → List (List Char)
  | [] => if begun.isEmpty then [] else [begun.reverse]
  | '\r' :: '\n' :: rest => begun.reverse :: linesAfter [] rest
  | c :: rest =>
    if isLineEnd c then begun.reverse :: linesAfter [] rest else linesAfter (c :: begun) rest

/-- The lines of a text, without their ends. -/
def lines (s : List Char) : List (List Char) := linesAfter [] s

end Gatehouse.Text
