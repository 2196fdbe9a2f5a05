import Gatehouse.Codec.Percent
import Gatehouse.Http.Request

/-! # Addresses

The address of a request is put together from its host, its path and its query. The host is that of
the `Host` header if it can stand in an address, and the server's own name otherwise. -/

namespace Gatehouse

namespace Address

/-! ### Hosts -/

/-- Characters of a name: letters, digits and the marks that have no meaning in an address. -/
def isNameChar (c : Char) : Bool :=
  Percent.isAsciiAlnum c.toNat || "-._~%!$&'()*+,;=".toList.contains c

/-- Characters of a numeric address in brackets. -/
def isNumericChar (c : Char) : Bool :=
  Percent.isAsciiAlnum c.toNat || c == ':' || c == '.'

/-- Nothing, or a port. -/
def isPort : List Char → Bool
  | [] => true
  | ':' :: digits => digits.all fun c => '0' ≤ c && c ≤ '9'
  | _ => false

/-- A name or a numeric address, and perhaps a port. -/
def isHost (host : String) : Bool :=
  match host.toList with
  | '[' :: rest =>
    let inner := rest.takeWhile isNumericChar
    match rest.dropWhile isNumericChar with
    | ']' :: rest => !inner.isEmpty && isPort rest
    | _ => false
  | s => !(s.takeWhile isNameChar).isEmpty && isPort (s.dropWhile isNameChar)

/-! ### Paths -/

/-- Characters that are left out of an address wherever they stand. -/
def isIgnored (c : Char) : Bool := c == '\t' || c == '\n' || c == '\r'

/-- Characters that would end the path of an address are escaped. -/
def escapeEnd (c : Char) : List Char :=
  if c == '?' then ['%', '3', 'F'] else if c == '#' then ['%', '2', '3'] else [c]

/-- A path as it stands in an address: unless it is empty it starts with a slash. -/
def writePath (path : String) : List Char :=
  let escaped := path.toList.flatMap escapeEnd
  match escaped with
  | [] => []
  | '/' :: _ => escaped
  | _ => '/' :: escaped

end Address

namespace Request

/-- The path of the request's address. -/
def addressPath (r : Request) : String :=
  String.ofList ((Address.writePath r.path).filter fun c => !Address.isIgnored c)

/-- The host of the request's address. -/
def addressHost (r : Request) : String :=
  match r.host? with
  | some host => if Address.isHost host then host else r.server
  | none => r.server

/-- Where the same request is found under another path, as the value of a header. -/
def locationAt (r : Request) (path : String) : String :=
  Percent.encodeUrl ("http://" ++ r.addressHost ++ String.ofList (Address.writePath path) ++
    (if r.query.isEmpty then "" else "?" ++ r.query))

end Request

end Gatehouse
