import Gatehouse.Json.Writer

/-! # Responses

A status, headers in the order they were set, and a body of text. The length of the body is not
kept as a header: it follows from the body. -/

namespace Gatehouse

/-- A response with a text for its body. -/
structure Response where
  status : Nat
  headers : List (String × String)
  body : String
  deriving DecidableEq, Repr, Inhabited

namespace Response

/-- A response in plain text. -/
def plain (status : Nat) (body : String) : Response :=
  ⟨status, [("content-type", "text/plain; charset=utf-8")], body⟩

/-- A body that is JSON text already. -/
def jsonText (status : Nat) (body : String) : Response :=
  ⟨status, [("content-type", "application/json")], body⟩

/-- A response in JSON. -/
def json (status : Nat) (body : Json) : Response :=
  jsonText status (body.write .compactRaw)

/-- The usual shape of an error. -/
def detail (status : Nat) (message : String) : Response :=
  json status (.object [("detail", .text message)])

/-- The response with a header more, at the end. -/
def withHeader (r : Response) (name value : String) : Response :=
  { r with headers := r.headers ++ [(name, value)] }

/-- What a caller sees when the work on its request broke down. -/
def crash : Response := plain 500 "Internal Server Error"

end Response

end Gatehouse
