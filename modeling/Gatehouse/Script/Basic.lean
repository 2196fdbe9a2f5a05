import Gatehouse.Failure
import Gatehouse.Json.Basic

/-! # Scripts

What a handler or a job does while time passes: sleep, send messages, fail, leave marks, and do so
under a time limit or with failures caught by name. -/

namespace Gatehouse

/-- A message to the caller. -/
inductive Message
  /-- The start of a response; a malformed one has no status. -/
  | start (status : Option Json) (headers : List (String × String))
  | body (text : String) (more : Bool)
  /-- Any other kind; a malformed message has none. -/
  | other (kind : Option String)
  deriving BEq

/-- The status of a response start that has one. -/
def Message.status? : Message → Option Json
  | start status _ => status
  | _ => none

/-- A script is a step and the script after it. -/
inductive Script
  | done
  | sleep (seconds : Rat) (next : Script)
  | send (message : Message) (next : Script)
  | fail (failure : Failure)
  | mark (name : String) (next : Script)
  /-- Runs `body` under a time limit of its own, or none. -/
  | within (limit : Option Rat) (body next : Script)
  /-- Runs `body`; a failure whose name is in `caught` goes to the handler of that name;
  `cleanup` runs in any case. -/
  | attempt (body : Script) (caught : List String) (handler : String → Script)
      (cleanup next : Script)
  deriving Inhabited

end Gatehouse
