import Gatehouse.Text.Blank
import Gatehouse.Text.Search

/-! # Requests

A request as it comes in: the path is decoded, header names are in lower case, and header values
have been read byte by byte. -/

namespace Gatehouse

/-- A request as it reaches the server. -/
structure Request where
  /-- The name of the server that the request reached. -/
  server : String
  method : String
  path : String
  query : String
  headers : List (String × String)
  body : String
  deriving DecidableEq, Repr

namespace Request

/-- The first header of a name. -/
def header? (r : Request) (name : String) : Option String :=
  (r.headers.find? fun h => h.1 == name).map (·.2)

/-- The values of all headers of that name. -/
def headersNamed (r : Request) (name : String) : List String :=
  (r.headers.filter fun h => h.1 == name).map (·.2)

def host? (r : Request) : Option String := r.header? "host"

def host (r : Request) : String := r.host?.getD ""

def cookies (r : Request) : List String := r.headersNamed "cookie"

/-- The credential of an authorization of the bearer scheme, if there is one. -/
def bearerOf (authorization : String) : Option String :=
  let cs := authorization.toList
  let scheme := cs.takeWhile (· != ' ')
  let credential := Text.strip ((cs.dropWhile (· != ' ')).drop 1)
  if String.ofList (scheme.map Char.toLower) == "bearer" && !credential.isEmpty then
    some (String.ofList credential)
  else none

/-- The credential of an `Authorization: Bearer` header. -/
def bearer? (r : Request) : Option String := (r.header? "authorization").bind bearerOf

end Request

end Gatehouse
