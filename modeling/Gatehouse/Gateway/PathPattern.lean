import Gatehouse.Codec.Percent
import Gatehouse.Failure
import Gatehouse.Text.Search

/-! # Path patterns

The paths that a route is for. In the template of a pattern a name in braces stands for a part of
the path that may vary, and a kind after a colon tells what it may be. A line break at the end of
a path does not count. -/

namespace Gatehouse

/-- What a part of a path may be. -/
inductive PartKind
  /-- Up to the next slash. -/
  | segment
  /-- Any text, slashes included. -/
  | anything
  | wholeNumber
  | decimalNumber
  /-- A universally unique identifier. -/
  | identifier
  deriving DecidableEq, Repr

namespace PartKind

/-- The kind that a name in a template stands for. -/
def ofName? : String → Option PartKind
  | "str" => some segment
  | "path" => some anything
  | "int" => some wholeNumber
  | "float" => some decimalNumber
  | "uuid" => some identifier
  | _ => none

/-! Each kind by what may be left of a text after a part of that kind at its start. -/

/-- After one or more characters that pass. -/
def afterSome (p : Char → Bool) : List Char → List (List Char)
  | [] => []
  | c :: rest => if p c then rest :: afterSome p rest else []

def isDigit (c : Char) : Bool := '0' ≤ c && c ≤ '9'

def isHexDigit (c : Char) : Bool :=
  isDigit c || ('a' ≤ c && c ≤ 'f') || ('A' ≤ c && c ≤ 'F')

/-- What may follow the places of a number. -/
def afterFraction : List Char → List (List Char)
  | '.' :: rest => afterSome isDigit rest
  | _ => []

/-- After groups of hexadecimal digits, between which there may be dashes. -/
def afterGroups : List Nat → List Char → List (List Char)
  | [], s => [s]
  | n :: groups, s =>
    let rest := s.drop n
    if (s.take n).length == n && (s.take n).all isHexDigit then
      match groups, rest with
      | _ :: _, '-' :: rest => afterGroups groups rest
      | _, _ => afterGroups groups rest
    else []

/-- What may follow a part of that kind, one for each way to read it. -/
def rests : PartKind → List Char → List (List Char)
  | segment, s => afterSome (· != '/') s
  | anything, s => s :: afterSome (· != '\n') s
  | wholeNumber, s => afterSome isDigit s
  | decimalNumber, s =>
    (afterSome isDigit s).flatMap fun rest => rest :: afterFraction rest
  | identifier, s => afterGroups [8, 4, 4, 4, 12] s

end PartKind

/-- A part of a path: always the same, or of some kind. -/
inductive PathPart
  | fixed (text : List Char)
  | varying (kind : PartKind)
  deriving DecidableEq, Repr

/-- A path as the parts that follow one another. -/
abbrev PathPattern := List PathPart

namespace PathPattern

/-- The pattern of just one path. -/
def only (path : String) : PathPattern := [.fixed path.toList]

/-- Whether a path has the form of a pattern; a line break at its end makes no difference. -/
def accepts : PathPattern → List Char → Bool
  | [], s => s.isEmpty || s == ['\n']
  | .fixed text :: parts, s => text.isPrefixOf s && accepts parts (s.drop text.length)
  | .varying kind :: parts, s => (kind.rests s).any (accepts parts)

/-! ### Templates -/

def isNameStart (c : Char) : Bool :=
  ('a' ≤ c && c ≤ 'z') || ('A' ≤ c && c ≤ 'Z') || c == '_'

def isNameChar (c : Char) : Bool := isNameStart c || PartKind.isDigit c

/-- A name at the start of a text, and what follows. -/
def takeName (s : List Char) : Option (String × List Char) :=
  match s with
  | c :: _ =>
    if isNameStart c then some (String.ofList (s.takeWhile isNameChar), s.dropWhile isNameChar)
    else none
  | [] => none

/-- A part of a template. -/
inductive Piece
  | text (c : Char)
  | named (name kind : String)

/-- A name, and perhaps a kind, up to the closing brace. -/
def takeNamed (s : List Char) : Option (Piece × List Char) := do
  let (name, rest) ← takeName s
  match rest with
  | '\x7d' :: rest => return (.named name "str", rest)
  | ':' :: rest => do
    let (kind, rest) ← takeName rest
    match rest with
    | '\x7d' :: rest => return (.named name kind, rest)
    | _ => none
  | _ => none

/-- The pieces of a template. A brace that opens no name is text. -/
def pieces : Nat → List Char → List Piece
  | 0, _ => []
  | _, [] => []
  | fuel + 1, c :: rest =>
    if c == '\x7b' then
      match takeNamed rest with
      | some (piece, rest) => piece :: pieces fuel rest
      | none => .text c :: pieces fuel rest
    else .text c :: pieces fuel rest

/-- The names in a template, in order. -/
def names (pieces : List Piece) : List String :=
  pieces.filterMap fun
    | .named name _ => some name
    | .text _ => none

/-- One part for each character and each name. -/
def parts : List Piece → Except Failure PathPattern
  | [] => .ok []
  | .text c :: rest => return .fixed [c] :: (← parts rest)
  | .named _ kind :: rest =>
    match PartKind.ofName? kind with
    | some kind => return .varying kind :: (← parts rest)
    | none => .error .assertion

/-- The names that stand more than once, in alphabetical order. -/
def repeated (names : List String) : List String :=
  ((names.filter fun name => 1 < names.count name).eraseDups).mergeSort fun a b => a ≤ b

/-- What is said of names that stand twice in a template. -/
def repeatedMessage (names : List String) (template : String) : String :=
  "Duplicated param name" ++ (if 1 < names.length then "s " else " ") ++
    String.intercalate ", " names ++ " at path " ++ template

/-- The pattern of a template. A name may stand only once, and every kind must be known. A
template without a slash at its start ends at a colon after the last name. -/
def ofTemplate (template : String) : Except Failure PathPattern := do
  let s := template.toList
  let found := pieces s.length s
  let parts ← parts found
  match repeated (names found) with
  | [] => pure ()
  | twice => throw (.value (repeatedMessage twice template))
  if s.head? == some '/' then return parts
  let last := (parts.reverse.takeWhile fun
    | .fixed _ => true
    | .varying _ => false).reverse
  return parts.take (parts.length - last.length) ++ last.takeWhile (· != .fixed [':'])

end PathPattern

end Gatehouse
