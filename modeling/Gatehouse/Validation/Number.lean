import Gatehouse.Text.Blank
import Gatehouse.Text.Bytes
import Gatehouse.Validation.Basic
import Gatehouse.Json.Reader

/-! # Lenient numbers

A field for a number takes other values that plainly mean one: text, truth values, and for an
integer a number whose fraction is zero. -/

namespace Gatehouse.Lenient

open Text

/-! ### Integers -/

def trimBlanks (s : List Char) : List Char :=
  dropEnd isNumberBlank (s.dropWhile isNumberBlank)

/-- A plus sign counts for nothing, but no minus sign may follow it. -/
def dropPlus : List Char → Option (List Char)
  | '+' :: '-' :: _ => none
  | '+' :: rest => some rest
  | s => some s

/-- Leaves out the zeros in front of another digit or of a minus sign, and underscores among them;
one zero stays if there is nothing else in front of a point or the end. -/
def dropLeadingZeros : List Char → Option (List Char)
  | [] => none
  | '0' :: rest =>
    let zeros := '0' :: rest.takeWhile fun c => c == '0' || c == '_'
    let last := zeros.getLastD '0'
    match rest.dropWhile fun c => c == '0' || c == '_' with
    | [] => some [last]
    | '.' :: tail => some (last :: '.' :: tail)
    | c :: tail => if Json.isDigit c || c == '-' then some (c :: tail) else none
  | c :: rest => if Json.isDigit c || c == '-' then some (c :: rest) else none

/-- Leaves out a fraction of zeros. -/
def dropZeroFraction (s : List Char) : List Char :=
  let fraction := (s.dropWhile (· != '.')).drop 1
  if fraction.all (· == '0') then s.takeWhile (· != '.') else s

/-- Whether two underscores stand next to each other. -/
def doubled : List Char → Bool
  | '_' :: '_' :: _ => true
  | _ :: rest => doubled rest
  | [] => false

/-- Leaves out underscores that stand one at a time and not at an end. -/
def dropUnderscores (s : List Char) : List Char :=
  if s.head? == some '_' || s.getLast? == some '_' || doubled s then s
  else s.filter (· != '_')

def readDigits (s : List Char) : Option Nat :=
  if !s.isEmpty && s.all Json.isDigit then some (Json.digitsValue s) else none

def readSigned : List Char → Option Int
  | '-' :: rest => (readDigits rest).map fun n => -(n : Int)
  | s => (readDigits s).map fun n => (n : Int)

/-- The essential part of a text for an integer. -/
def cleanInt (s : List Char) : Option (List Char) :=
  ((dropPlus (trimBlanks s)).bind dropLeadingZeros).map fun s =>
    dropUnderscores (dropZeroFraction s)

/-- As long as the essential part may be. -/
def maxIntLength : Nat := 4300

/-- The integer that a text stands for. -/
def intOfText (s : List Char) : Except FaultKind Int :=
  match cleanInt s with
  | none => .error .intParsing
  | some s =>
    if maxIntLength < (utf8 s).length then .error .intTooLong
    else
      match readSigned s with
      | some n => .ok n
      | none => .error .intParsing

/-- Doubles from here on are no integers. -/
def wholeLimit : Nat := Nat.pow 2 63

/-- Whole numbers with an exponent or a fraction count as integers only within 64 bits. -/
def intOfFloat (x : Binary64) : Except FaultKind Int :=
  match x.trunc? with
  | none => .error .finiteNumber
  | some n =>
    if !x.isIntegral then .error .intFromFloat
    else if -(wholeLimit : Int) < n && n < wholeLimit then .ok n
    else .error .intTooLong

/-- The integer that a value stands for. -/
def int : Json → Except FaultKind Int
  | .int n => .ok n
  | .bool b => .ok (if b then 1 else 0)
  | .float x => intOfFloat x
  | .text s => intOfText s.toList
  | _ => .error .intType

/-! ### Numbers with a fraction -/

def lower (s : List Char) : List Char := s.map Char.toLower

/-- Digits with at most one point, at least one digit, and perhaps an exponent. -/
def decimalOfText (negative : Bool) (s : List Char) : Option Binary64 :=
  let whole := s.takeWhile Json.isDigit
  let rest := s.dropWhile Json.isDigit
  let (places, rest) := match rest with
    | '.' :: rest => (rest.takeWhile Json.isDigit, rest.dropWhile Json.isDigit)
    | _ => ([], rest)
  if whole.isEmpty && places.isEmpty then none
  else
    match (if rest.isEmpty then some (0, []) else Json.scanExponent rest) with
    | some (exponent, []) =>
      some (Binary64.ofDecimal negative (Json.digitsValue (whole ++ places))
        (exponent - places.length))
    | _ => none

/-- A number without its sign, which may be infinite or none. -/
def magnitudeOfText (negative : Bool) (s : List Char) : Option Binary64 :=
  let word := String.ofList (lower s)
  if word == "inf" || word == "infinity" then some (.infinite negative)
  else if word == "nan" then some .notANumber
  else decimalOfText negative s

def floatOfChars (s : List Char) : Option Binary64 :=
  let (negative, s) := IntegerLiteral.takeSign s
  magnitudeOfText negative s

/-- Blanks may stand around a number, or underscores in it, but not both. -/
def floatOfText (s : List Char) : Except FaultKind Binary64 :=
  match floatOfChars (trimBlanks s) with
  | some x => .ok x
  | none =>
    match floatOfChars (dropUnderscores s) with
    | some x => .ok x
    | none => .error .floatParsing

/-- The double that a value stands for. -/
def float : Json → Except FaultKind Binary64
  | .float x => .ok x
  | .int n =>
    match Binary64.ofRatio (decide (n < 0)) n.natAbs 1 with
    | .infinite _ => .error .floatType
    | x => .ok x
  | .bool b => .ok (Binary64.ofRatio false (if b then 1 else 0) 1)
  | .text s => floatOfText s.toList
  | _ => .error .floatType

/-! ### Text -/

/-- The text that a value is. -/
def text : Json → Except FaultKind String
  | .text s => .ok s
  | _ => .error .stringType

end Gatehouse.Lenient
