/-! # Names of tables

A table as a statement names it: in upper or lower case, with or without quotation marks, and
perhaps behind the name of the database that it is in. Blanks and comments may stand around each
part of the name. -/

namespace Gatehouse

/-- A name as it stands in a statement, in lower case. -/
structure TableName where
  /-- The database, if it is named. -/
  database : Option String
  name : String
  deriving DecidableEq, Repr

namespace TableName

/-- Whether SQL takes a character for a blank. -/
def isBlank (c : Char) : Bool := c == ' ' || c == '\t' || c == '\n' || c == '\x0c' || c == '\r'

/-- Whether a character may stand in a name without quotes. -/
def isWordChar (c : Char) : Bool := c.isAlphanum || c == '_' || c == '$' || 127 < c.toNat

def lower (s : List Char) : String := String.ofList (s.map Char.toLower)

/-- Where a reader is that skips blanks. -/
inductive Gap
  | blanks
  | lineComment
  | blockComment

/-- What follows blanks and comments. -/
def skipIn : Gap → List Char → List Char
  | _, [] => []
  | .lineComment, c :: rest => skipIn (if c == '\n' then .blanks else .lineComment) rest
  | .blockComment, '*' :: '/' :: rest => skipIn .blanks rest
  | .blockComment, _ :: rest => skipIn .blockComment rest
  | .blanks, '-' :: '-' :: rest => skipIn .lineComment rest
  | .blanks, '/' :: '*' :: rest => skipIn .blockComment rest
  | .blanks, c :: rest => if isBlank c then skipIn .blanks rest else c :: rest

def skipBlanks (s : List Char) : List Char := skipIn .blanks s

/-- A name up to the mark that closes it; two marks in a row stand for one. -/
def takeQuoted (close : Char) : List Char → Option (List Char × List Char)
  | [] => none
  | [c] => if c == close then some ([], []) else none
  | c :: d :: rest =>
    if c == close then
      if d == close then (takeQuoted close rest).map fun (s, rest) => (close :: s, rest)
      else some ([], d :: rest)
    else (takeQuoted close (d :: rest)).map fun (s, rest) => (c :: s, rest)

/-- A name without quotes, and what follows it. -/
def takeWord (s : List Char) : Option (List Char × List Char) :=
  match s with
  | c :: _ =>
    if isWordChar c && !c.isDigit && c != '$' then
      some (s.takeWhile isWordChar, s.dropWhile isWordChar)
    else none
  | [] => none

/-- One name at the start of a text, with the blanks before it. -/
def takeName (s : List Char) : Option (List Char × List Char) :=
  match skipBlanks s with
  | '"' :: rest => takeQuoted '"' rest
  | '\'' :: rest => takeQuoted '\'' rest
  | '\x60' :: rest => takeQuoted '\x60' rest
  | '[' :: rest =>
    if rest.contains ']' then
      some (rest.takeWhile (· != ']'), (rest.dropWhile (· != ']')).drop 1)
    else none
  | s => takeWord s

/-- At the end of a statement, whether another one follows. -/
def isFollowed? (s : List Char) : Option Bool :=
  match skipBlanks s with
  | [] => some false
  | ';' :: rest => some !(skipBlanks rest).isEmpty
  | _ => none

/-- The name that ends a statement, and whether another statement follows. -/
def read? (s : List Char) : Option (TableName × Bool) := do
  let (first, rest) ← takeName s
  match isFollowed? rest with
  | some followed => return (⟨none, lower first⟩, followed)
  | none =>
    match skipBlanks rest with
    | '.' :: rest => do
      let (second, rest) ← takeName rest
      let followed ← isFollowed? rest
      return (⟨some (lower first), lower second⟩, followed)
    | _ => none

/-- The text after the words that make a missing table no fault, if they are there. -/
def afterIfExists (s : List Char) : Option (List Char) := do
  let (first, rest) ← takeWord (skipBlanks s)
  let (second, rest) ← takeWord (skipBlanks rest)
  if lower first == "if" && lower second == "exists" then return rest else none

/-- The tables of the gateway are in the main database. -/
def isIn (t : TableName) (name : String) : Bool :=
  t.name == name && (t.database.getD "main") == "main"

end TableName

end Gatehouse
