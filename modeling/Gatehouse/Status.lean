import Gatehouse.Http.Response
import Gatehouse.Persistence.Marker
import Gatehouse.Time.ProcessClock
import Gatehouse.Time.Rfc3339

/-! # The status probe

Uptime, build version and the time of the last persistence run as one flat object. The version is
whatever the deployment has put there: if a part of it cannot be written, the probe answers with
the reason as plain text. -/

namespace Gatehouse

/-- Why a value cannot be written. -/
inductive Unwritable
  | foreign (kind : String)
  | circular
  | nameOfKind (kind : String)
  /-- It has an integer of too many digits. -/
  | overlong
  deriving DecidableEq, Repr

/-- What is told of a value that cannot be written. -/
def Unwritable.message : Unwritable → String
  | foreign kind => "Object of type " ++ kind ++ " is not JSON serializable"
  | circular => "Circular reference detected"
  | nameOfKind kind => "keys must be str, int, float, bool or None, not " ++ kind
  | overlong =>
    "Exceeds the limit (" ++ toString IntegerLiteral.maxDigits ++
      " digits) for integer string conversion; use sys.set_int_max_str_digits() to increase " ++
      "the limit"

/-- A value that a version may hold: JSON, or something that cannot be written, at any depth. -/
inductive Version
  | json (v : Json)
  | list (items : List Version)
  | object (members : List (String × Version))
  | unwritable (reason : Unwritable)
  deriving Inhabited

namespace Version

mutual

/-- The value as JSON, or the first thing in it that cannot be written. -/
def toJson : Version → Except Unwritable Json
  | json v => if v.hasOverlong then .error .overlong else .ok v
  | list items => (itemsToJson items).map .list
  | object members => (membersToJson members).map .object
  | unwritable reason => .error reason

/-- The items of a list as JSON, up to the first that cannot be written. -/
def itemsToJson : List Version → Except Unwritable (List Json)
  | [] => .ok []
  | v :: rest => do
    let v ← toJson v
    let rest ← itemsToJson rest
    return v :: rest

/-- The members of an object as JSON, up to the first that cannot be written. -/
def membersToJson : List (String × Version) → Except Unwritable (List (String × Json))
  | [] => .ok []
  | (name, v) :: rest => do
    let v ← toJson v
    let rest ← membersToJson rest
    return (name, v) :: rest

end

end Version

namespace Status

/-- What the probe tells. -/
def document (uptime : Duration) (version : Json) (marker : Marker) : Json :=
  .object
    [("uptime", .text uptime.write), ("version", version),
      ("last_persisted_at", .text marker.value.write)]

/-- The answer of the probe. An uptime that cannot be told comes before a version that cannot be
written. -/
def respond (clock : ProcessClock) (version : Version) (marker : Marker) : Response :=
  match clock.uptime with
  | .error f => .plain 500 f.text
  | .ok uptime =>
    match version.toJson with
    | .error reason => .plain 500 reason.message
    | .ok v => .jsonText 200 ((document uptime v marker).write .spaced)

end Status

end Gatehouse
