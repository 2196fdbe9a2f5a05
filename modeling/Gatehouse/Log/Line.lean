import Gatehouse.Log.Threshold
import Gatehouse.Text.Shown

/-! # Log lines

An event is written as one line: as a JSON object, or as text for a console. Fields of the event
count more than fields bound to the work in progress, the name of the service is a field like any
other, and what the log itself knows about an event counts more than all of them. In text, a
trace and a report of an exception stand below the line. -/

namespace Gatehouse

/-- How an event is logged: at a level, or as what went along with an exception, which is an
error. -/
inductive Call
  | plain (level : Level)
  | exception
  deriving DecidableEq, Repr

namespace Call

/-- The name of the method that is called. -/
def name : Call → String
  | plain level => level.name
  | exception => "exception"

/-- The level that a call logs at. -/
def level : Call → Level
  | plain level => level
  | exception => .error

end Call

/-- What is logged, with the fields given along with it. -/
structure Entry where
  call : Call
  logger : String
  event : String
  fields : Fields

namespace Entry

def level (e : Entry) : Level := e.call.level

/-- A logger without a name is the one above all others. -/
def loggerName (e : Entry) : String := if e.logger.isEmpty then "root" else e.logger

/-- The failure of a field that has the name of a parameter. -/
def clash (place name : String) : Failure :=
  .type ("BoundLogger." ++ place ++ "() got multiple values for argument '" ++ name ++ "'")

/-- A field cannot have a name under which the call is told something else. -/
def check (e : Entry) : Except Failure Unit :=
  match e.fields.find? fun f => f.1 == "self" || f.1 == "event" with
  | some f => .error (clash e.call.name f.1)
  | none =>
    if e.fields.any fun f => f.1 == "method_name" then
      .error (clash "_proxy_to_logger" "method_name")
    else .ok ()

end Entry

/-- How the log is written: for which service, from which severity on, and whether as JSON. -/
structure LogSetup where
  service : String
  threshold : Nat
  json : Bool

namespace LogSetup

/-- The setup that names its level, if there is such a level. -/
def ofNames (service level : String) (json : Bool) : Except Failure LogSetup :=
  (Threshold.ofName level).map fun threshold => ⟨service, threshold, json⟩

/-- Whether an event of that level is written. -/
def admits (setup : LogSetup) (level : Level) : Bool := setup.threshold ≤ level.severity

end LogSetup

namespace Fields

/-- Sets a field, which moves it to the end. -/
def set (fields : Fields) (name : String) (v : Json) : Fields :=
  (fields.filter fun f => f.1 != name) ++ [(name, v)]

/-- Both, with the values of `later` where a name is in both. -/
def update (fields later : Fields) : Fields :=
  later.foldl (fun fields f => Fields.set fields f.1 f.2) fields

/-- Sets a field that is not there yet. -/
def setIfAbsent (fields : Fields) (name : String) (v : Json) : Fields :=
  if fields.any fun f => f.1 == name then fields else Fields.set fields name v

/-- Whether an exception is asked for; there is none, so nothing comes of it. -/
def exceptionSwitch : String := "exc_info"

/-- All fields of the line of an entry. -/
def ofEntry (setup : LogSetup) (bound : Fields) (time : String) (e : Entry) : Fields :=
  let fields := Fields.set (Fields.update bound e.fields) "event" (.text e.event)
  let fields := Fields.set fields "level" (.text e.level.name)
  let fields := Fields.set fields "logger" (.text e.loggerName)
  let fields := Fields.set fields "timestamp" (.text time)
  let fields := Fields.setIfAbsent fields "service" (.text setup.service)
  fields.filter fun f => f.1 != exceptionSwitch

end Fields

namespace Console

/-- A value as it is, if it is a text, else as it is shown. -/
def bare : Json → String
  | .text s => s
  | v => Shown.value v

/-- A text of one word is written as it is, everything else as it is shown. -/
def value : Json → String
  | .text s => if s.toList.any [' ', '\t', '=', '\r', '\n', '"', '\''].contains then
      Quoted.literal s else s
  | v => Shown.value v

/-- Fills a text up with blanks. -/
def padTo (width : Nat) (s : String) : String :=
  s ++ String.ofList (List.replicate (width - s.length) ' ')

def levelWidth : Nat := 9

def eventWidth : Nat := 30

/-- The name that a module has given to its logger. -/
def loggerAlias : String := "logger_name"

/-- Fields that have a place of their own in a line, or below it. -/
def placed : List String :=
  ["timestamp", "level", "event", "logger", loggerAlias, "stack", "exception"]

/-- The text without the blanks at its end. -/
def dropEndSpaces (s : String) : String :=
  String.ofList (s.toList.reverse.dropWhile (· == ' ')).reverse

/-- A line for the console: time, level, event and logger, then the other fields by name. -/
def line (time : String) (e : Entry) (fields : Fields) : String :=
  let rest := (fields.filter fun f => !placed.contains f.1).mergeSort fun a b => a.1 ≤ b.1
  let named := (Json.lookup loggerAlias fields).map fun v => "[" ++ bare v ++ "]"
  dropEndSpaces (String.intercalate " "
    ([time, "[" ++ padTo levelWidth e.level.name ++ "]", padTo eventWidth e.event,
      "[" ++ e.loggerName ++ "]"] ++ named.toList ++ rest.map fun f => f.1 ++ "=" ++ value f.2))

/-- A field that stands below the line, where only a text can stand. -/
def below (name : String) (fields : Fields) : Except Failure (Option String) :=
  match Json.lookup name fields with
  | none | some .null => .ok none
  | some (.text s) => .ok (some s)
  | some v => .error (.type ("can only concatenate str (not \"" ++ v.kindName ++ "\") to str"))

/-- What separates a trace from the exception after it. -/
def ruler : String := "\n" ++ String.ofList (List.replicate 79 '=') ++ "\n\n"

/-- The line and what stands below it. -/
def page (time : String) (e : Entry) (fields : Fields) : Except Failure String := do
  let stack ← below "stack" fields
  let exception ← below "exception" fields
  let parts := [some (line time e fields), stack, exception.map fun s =>
    (if stack.isSome then ruler else "") ++ s]
  return String.intercalate "\n" (parts.filterMap id)

end Console

namespace LogSetup

/-- How an entry is written. -/
def line (setup : LogSetup) (bound : Fields) (time : String) (e : Entry) :
    Except Failure String := do
  e.check
  let fields := Fields.ofEntry setup bound time e
  if setup.json then return (Json.object fields).write .spaced else Console.page time e fields

/-- How an entry is written if the threshold lets it through. -/
def line? (setup : LogSetup) (bound : Fields) (time : String) (e : Entry) :
    Except Failure (Option String) :=
  (setup.line bound time e).map fun line => if setup.admits e.level then some line else none

end LogSetup

end Gatehouse
