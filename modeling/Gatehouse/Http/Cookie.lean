import Gatehouse.Failure
import Gatehouse.Codec.Percent
import Gatehouse.Text.Blank
import Gatehouse.Text.Search

/-! # Cookies

Reading the `Cookie` headers of a request and writing the `Set-Cookie` header of a response. A
value that is not a plain token stands between double quotes, with its special characters
escaped; reading takes the quotes off again. -/

namespace Gatehouse.Cookie

open Text

/-! ### Reading -/

/-- Whether a character is an octal digit up to `top`. -/
def isOctal (top c : Char) : Bool := '0' ≤ c && c ≤ top

def octalValue (c : Char) : Nat := c.toNat - 48

/-- Undoes the escapes: three octal digits for a character, or a backslash before any character
but a newline. -/
def unescape : List Char → List Char
  | [] => []
  | '\\' :: a :: b :: c :: rest =>
    if isOctal '3' a && isOctal '7' b && isOctal '7' c then
      Char.ofNat (64 * octalValue a + 8 * octalValue b + octalValue c) :: unescape rest
    else if a == '\n' then '\\' :: unescape (a :: b :: c :: rest)
    else a :: unescape (b :: c :: rest)
  | '\\' :: a :: rest => if a == '\n' then '\\' :: unescape (a :: rest) else a :: unescape rest
  | c :: rest => c :: unescape rest

/-- Takes the quotation marks off a quoted value; any other value is as it is. -/
def unquote (value : List Char) : List Char :=
  match value with
  | '"' :: rest =>
    if rest.getLast? == some '"' then unescape rest.dropLast else value
  | _ => value

/-- A pair of a header; without an equals sign it is a value without a name. -/
def readPair (chunk : List Char) : Option (String × String) :=
  let (name, value) :=
    if chunk.contains '=' then
      (chunk.takeWhile (· != '='), (chunk.dropWhile (· != '=')).drop 1)
    else ([], chunk)
  let name := strip name
  let value := strip value
  if name.isEmpty && value.isEmpty then none
  else some (String.ofList name, String.ofList (unquote value))

/-- The pairs of a `Cookie` header, in order. -/
def readHeader (header : String) : List (String × String) :=
  (splitOn ';' header.toList).filterMap readPair

/-- The value of a cookie: of several the last one. -/
def find? (headers : List String) (name : String) : Option String :=
  (((headers.flatMap readHeader).reverse).find? fun c => c.1 == name).map (·.2)

/-! ### Writing -/

/-- What may stand in a name beside letters and digits. -/
def tokenChars : List Char := "!#$%&'*+-.^_\x60|~:".toList

def isAsciiAlnum (c : Char) : Bool := Percent.isAsciiAlnum c.toNat

/-- Characters of a value that needs no quotes. -/
def isTokenChar (c : Char) : Bool := isAsciiAlnum c || tokenChars.contains c

/-- Characters that stand for themselves between quotes. -/
def isPlainQuoted (c : Char) : Bool :=
  isTokenChar c || " ()/<=>?@[]\x7b\x7d".toList.contains c

/-- A character of a quoted value, by a backslash or by its number if it may not stand as it is. -/
def escapeChar (c : Char) : List Char :=
  if c == '"' || c == '\\' then ['\\', c]
  else if isPlainQuoted c || 255 < c.toNat then [c]
  else ['\\', Nat.digitChar (c.toNat / 64), Nat.digitChar (c.toNat / 8 % 8),
    Nat.digitChar (c.toNat % 8)]

/-- A value as it is set, in quotes if it needs them. -/
def quote (value : String) : String :=
  let cs := value.toList
  if !cs.isEmpty && cs.all isTokenChar then value
  else String.ofList ('"' :: (cs.flatMap escapeChar ++ ['"']))

/-- Names of attributes, which no cookie may have. -/
def reservedNames : List String :=
  ["expires", "path", "comment", "domain", "max-age", "secure", "httponly", "version", "samesite"]

def lowerAscii (s : String) : String := String.ofList (s.toList.map Char.toLower)

/-- Whether a cookie may have that name. -/
def isLegalName (name : String) : Bool :=
  !name.isEmpty && name.toList.all isTokenChar && !reservedNames.contains (lowerAscii name)

/-- The `Set-Cookie` header of a cookie for the whole site that scripts in a page cannot read. A
header holds only characters that fit one byte. -/
def setHeader (name value : String) (maxAge : Option Nat) : Except Failure String :=
  if !isLegalName name then .error .cookie
  else
    let lifetime := match maxAge with
      | some n => "; Max-Age=" ++ toString n
      | none => ""
    let header := name ++ "=" ++ quote value ++ "; HttpOnly" ++ lifetime ++ "; Path=/; SameSite=lax"
    if header.toList.all (fun c => c.toNat < 256) then .ok header else .error .unencodable

end Gatehouse.Cookie
