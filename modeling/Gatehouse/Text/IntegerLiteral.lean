import Gatehouse.Text.Blank
import Gatehouse.Text.DigitChar

/-! # Integer literals

A decimal integer as people write it: blanks around it, a sign, digits of any script, and single
underscores between digits. A literal of more than 4300 digits is refused before anything after
the digits is looked at. -/

namespace Gatehouse.IntegerLiteral

open Text

/-- Why a text is no literal. -/
inductive Fault
  | malformed
  | tooLong (digits : Nat)
  deriving DecidableEq, Repr

/-- The most digits that a literal may have. -/
def maxDigits : Nat := 4300

/-- An integer that is short enough to be written and read as a literal. -/
def Fits (n : Int) : Prop := (Nat.toDigits 10 n.natAbs).length ≤ maxDigits

instance (n : Int) : Decidable (Fits n) := inferInstanceAs (Decidable (_ ≤ _))

/-- The sign in front, if any, and what follows it. -/
def takeSign : List Char → Bool × List Char
  | '-' :: rest => (true, rest)
  | '+' :: rest => (false, rest)
  | rest => (false, rest)

/-- Whether a character is a digit of any script, or an underscore. -/
def isDigitOrUnderscore (c : Char) : Bool :=
  c == '_' || (digitValue? c).isSome

/-- Underscores stand one at a time, each between two digits. -/
def wellSeparated : List Char → Bool
  | [] => false
  | ['_'] => false
  | '_' :: _ => false
  | [_] => true
  | _ :: '_' :: rest => wellSeparated rest
  | _ :: rest => wellSeparated rest

/-- The digits of a run, without its underscores. -/
def digitsOf (run : List Char) : List Nat :=
  run.filterMap digitValue?

/-- The number that digits stand for. -/
def valueOf (digits : List Nat) : Nat :=
  digits.foldl (fun acc d => 10 * acc + d) 0

/-- The integer that a text is a literal of. -/
def read (s : List Char) : Except Fault Int :=
  let (negative, body) := takeSign (s.dropWhile isNumberBlank)
  let run := body.takeWhile isDigitOrUnderscore
  let rest := body.dropWhile isDigitOrUnderscore
  let digits := digitsOf run
  if !wellSeparated run then .error .malformed
  else if digits.length > maxDigits then .error (.tooLong digits.length)
  else if !rest.all isNumberBlank then .error .malformed
  else .ok (if negative then -(valueOf digits : Int) else valueOf digits)

end Gatehouse.IntegerLiteral
