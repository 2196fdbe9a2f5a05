import Gatehouse.Json.Basic
import Gatehouse.Text.Encoding
import Gatehouse.Text.Hex
import Gatehouse.Text.IntegerLiteral

/-! # Reading JSON

A fault says how much of the text was left at the place of the fault, so that its position is
known without counting along. Beyond the standard the reader takes `NaN`, `Infinity` and
`-Infinity`, and surrogates without a partner. It refuses a value that is nested too deep as soon
as it gets there, whatever follows. -/

namespace Gatehouse.Json

open Text

/-- A value that holds others. -/
inductive Container
  | list
  | object
  deriving DecidableEq, Repr

/-- How a text breaks the grammar. -/
inductive Flaw
  | noValue
  | noName
  | noColon
  | noComma
  | openString
  | controlCharacter
  | escape
  | hexEscape
  /-- Something follows the value. -/
  | more
  deriving DecidableEq, Repr

/-- What a flaw is reported as. -/
def Flaw.message : Flaw → String
  | noValue => "Expecting value"
  | noName => "Expecting property name enclosed in double quotes"
  | noColon => "Expecting ':' delimiter"
  | noComma => "Expecting ',' delimiter"
  | openString => "Unterminated string starting at"
  | controlCharacter => "Invalid control character at"
  | escape => "Invalid \\escape"
  | hexEscape => "Invalid \\uXXXX escape"
  | more => "Extra data"

/-- Why there is no value. -/
inductive Fault
  /-- The text breaks the grammar where `left` characters are left. -/
  | malformed (flaw : Flaw) (left : Nat)
  /-- An integer has more digits than an integer literal may have. -/
  | tooLong (digits : Nat)
  /-- The opening of a list or an object at a depth that nothing may be nested at. -/
  | tooDeep (what : Container)
  deriving DecidableEq, Repr

/-- How many lists and objects may stand around one another. -/
def maxDepth : Nat := 970

/-- Whether a character may stand between values. -/
def isSpace (c : Char) : Bool :=
  c == ' ' || c == '\t' || c == '\n' || c == '\r'

/-- The text without the blanks in front. -/
def skip (s : List Char) : List Char := s.dropWhile isSpace

/-! ### Strings -/

/-- The character after a backslash, for the short escapes. -/
def shortEscape? : Char → Option Nat
  | '"' => some 34
  | '\\' => some 92
  | '/' => some 47
  | 'b' => some 8
  | 'f' => some 12
  | 'n' => some 10
  | 'r' => some 13
  | 't' => some 9
  | _ => none

/-- Code points up to the closing mark. `opening` is what was left at the opening mark: an
unfinished string is a fault there, a bad escape one at its backslash or at its `u`. -/
def scanString (opening : Nat) : List Char → Except Fault (List Nat × List Char)
  | [] => .error (.malformed .openString opening)
  | '"' :: rest => .ok ([], rest)
  | '\\' :: 'u' :: a :: b :: c :: d :: e :: rest =>
    match Hex.read [a, b, c, d] with
    | none => .error (.malformed .hexEscape (rest.length + 6))
    | some n => do
      let (points, rest) ← scanString opening (e :: rest)
      return (n :: points, rest)
  | '\\' :: 'u' :: rest => .error (.malformed .hexEscape (rest.length + 1))
  | ['\\'] => .error (.malformed .openString opening)
  | '\\' :: c :: rest =>
    match shortEscape? c with
    | none => .error (.malformed .escape (rest.length + 2))
    | some n => do
      let (points, rest) ← scanString opening rest
      return (n :: points, rest)
  | c :: rest =>
    if c.toNat < 32 then .error (.malformed .controlCharacter (rest.length + 1))
    else do
      let (points, rest) ← scanString opening rest
      return (c.toNat :: points, rest)

/-- The text of code points. -/
def ofPoints (points : List Nat) : Json :=
  let joined := joinSurrogates points
  if joined.any isSurrogate then brokenText joined
  else text (String.ofList (joined.map Char.ofNat))

/-- The name of a member. -/
def nameOf (points : List Nat) : String :=
  String.ofList ((joinSurrogates points).map fun n =>
    if isSurrogate n then Char.ofNat (n + standInShift) else Char.ofNat n)

/-! ### Numbers -/

/-- Whether a character is a digit of a number. -/
def isDigit (c : Char) : Bool := '0' ≤ c && c ≤ '9'

/-- The number that digits stand for. -/
def digitsValue (s : List Char) : Nat :=
  s.foldl (fun acc c => 10 * acc + (c.toNat - 48)) 0

/-- The whole part of a number: a zero, or digits that do not start with one. -/
def scanWhole : List Char → Option (List Char × List Char)
  | '0' :: rest => some (['0'], rest)
  | c :: rest =>
    if isDigit c then some (c :: rest.takeWhile isDigit, rest.dropWhile isDigit) else none
  | [] => none

/-- The digits after a point, if there is a point with a digit after it. -/
def scanFraction (s : List Char) : Option (List Char × List Char) :=
  match s with
  | '.' :: rest =>
    let digits := rest.takeWhile isDigit
    if digits.isEmpty then none else some (digits, rest.dropWhile isDigit)
  | _ => none

/-- The power of ten after a number, if there is one. -/
def scanExponent (s : List Char) : Option (Int × List Char) :=
  match s with
  | c :: rest =>
    if c == 'e' || c == 'E' then
      let (negative, rest) := IntegerLiteral.takeSign rest
      let digits := rest.takeWhile isDigit
      if digits.isEmpty then none
      else
        let n : Int := digitsValue digits
        some (if negative then -n else n, rest.dropWhile isDigit)
    else none
  | [] => none

/-- A number, without its sign. -/
def scanMagnitude (negative : Bool) (left : Nat) (s : List Char) :
    Except Fault (Json × List Char) :=
  match scanWhole s with
  | none => .error (.malformed .noValue left)
  | some (whole, rest) =>
    let fraction := scanFraction rest
    let (places, rest) := fraction.getD ([], rest)
    let power := scanExponent rest
    let (exponent, rest) := power.getD (0, rest)
    if fraction.isSome || power.isSome then
      .ok (float (Binary64.ofDecimal negative (digitsValue (whole ++ places))
        (exponent - places.length)), rest)
    else if whole.length > IntegerLiteral.maxDigits then .error (.tooLong whole.length)
    else
      let n : Int := digitsValue whole
      .ok (int (if negative then -n else n), rest)

/-! ### Values -/

/-- The items of a list up to the closing bracket. -/
def scanItems (item : List Char → Except Fault (Json × List Char)) :
    Nat → List Char → Except Fault (List Json × List Char)
  | 0, s => .error (.malformed .noValue s.length)
  | fuel + 1, s => do
    let (v, rest) ← item s
    match skip rest with
    | ']' :: rest => return ([v], rest)
    | ',' :: rest => do
      let (vs, rest) ← scanItems item fuel (skip rest)
      return (v :: vs, rest)
    | rest => .error (.malformed .noComma rest.length)

/-- The members of an object up to the closing brace. -/
def scanMembers (item : List Char → Except Fault (Json × List Char)) :
    Nat → List Char → Except Fault (List (String × Json) × List Char)
  | 0, s => .error (.malformed .noName s.length)
  | fuel + 1, '"' :: s => do
    let (points, rest) ← scanString (s.length + 1) s
    match skip rest with
    | ':' :: rest => do
      let (v, rest) ← item (skip rest)
      match skip rest with
      | '\x7d' :: rest => return ([(nameOf points, v)], rest)
      | ',' :: rest => do
        let (vs, rest) ← scanMembers item fuel (skip rest)
        return ((nameOf points, v) :: vs, rest)
      | rest => .error (.malformed .noComma rest.length)
    | rest => .error (.malformed .noColon rest.length)
  | _, s => .error (.malformed .noName s.length)

/-- A value that holds no other, at the very start of the text. -/
def scanScalar (s : List Char) : Except Fault (Json × List Char) :=
  match s with
  | '"' :: rest => do
    let (points, rest) ← scanString s.length rest
    return (ofPoints points, rest)
  | 'n' :: 'u' :: 'l' :: 'l' :: rest => .ok (null, rest)
  | 't' :: 'r' :: 'u' :: 'e' :: rest => .ok (bool true, rest)
  | 'f' :: 'a' :: 'l' :: 's' :: 'e' :: rest => .ok (bool false, rest)
  | 'N' :: 'a' :: 'N' :: rest => .ok (float .notANumber, rest)
  | 'I' :: 'n' :: 'f' :: 'i' :: 'n' :: 'i' :: 't' :: 'y' :: rest =>
    .ok (float (.infinite false), rest)
  | '-' :: 'I' :: 'n' :: 'f' :: 'i' :: 'n' :: 'i' :: 't' :: 'y' :: rest =>
    .ok (float (.infinite true), rest)
  | '-' :: rest => scanMagnitude true s.length rest
  | _ => scanMagnitude false s.length s

/-- A value at the very start of the text, with so many levels of nesting. -/
def scanValue : Nat → List Char → Except Fault (Json × List Char)
  | 0, '[' :: _ => .error (.tooDeep .list)
  | 0, '\x7b' :: _ => .error (.tooDeep .object)
  | levels + 1, '[' :: rest =>
    match skip rest with
    | ']' :: rest => .ok (list [], rest)
    | rest => do
      let (items, rest) ← scanItems (scanValue levels) (rest.length + 1) rest
      return (list items, rest)
  | levels + 1, '\x7b' :: rest =>
    match skip rest with
    | '\x7d' :: rest => .ok (object [], rest)
    | rest => do
      let (members, rest) ← scanMembers (scanValue levels) (rest.length + 1) rest
      return (object (mergeMembers members), rest)
  | _, s => scanScalar s

/-- The value that the whole text is. -/
def read (s : List Char) : Except Fault Json := do
  let (v, rest) ← scanValue maxDepth (skip s)
  match skip rest with
  | [] => return v
  | rest => .error (.malformed .more rest.length)

end Gatehouse.Json
