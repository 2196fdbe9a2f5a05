/-! # Blank characters

`isBlank` is the Unicode white space that `strip` takes off both ends of a text: the control
characters that separate (tab to carriage return, the four information separators, next line),
and every space, line and paragraph separator. -/

namespace Gatehouse.Text

/-- Spaces and separators above ASCII. -/
def wideBlanks : List Nat :=
  [0x85, 0xA0, 0x1680, 0x2000, 0x2001, 0x2002, 0x2003, 0x2004, 0x2005, 0x2006, 0x2007, 0x2008,
   0x2009, 0x200A, 0x2028, 0x2029, 0x202F, 0x205F, 0x3000]

/-- Whether a character is a blank, in any script. -/
def isBlank (c : Char) : Bool :=
  let n := c.toNat
  (9 ≤ n && n ≤ 13) || (28 ≤ n && n ≤ 32) || wideBlanks.contains n

/-- The blanks that may stand around a number: of ASCII only the space and tab to carriage
return, above ASCII all of them. -/
def isNumberBlank (c : Char) : Bool :=
  let n := c.toNat
  (9 ≤ n && n ≤ 13) || n == 32 || wideBlanks.contains n

def dropEnd (p : Char → Bool) (s : List Char) : List Char :=
  (s.reverse.dropWhile p).reverse

/-- The text without the blanks at its two ends. -/
def strip (s : List Char) : List Char :=
  dropEnd isBlank (s.dropWhile isBlank)

end Gatehouse.Text
