import Gatehouse.Text.Quoted

/-! # Failures

What can end a piece of work: the gateway's own errors, each with the HTTP status it answers
with, and everything else that can go wrong. Logs and scripts know a failure by its name. -/

namespace Gatehouse

/-- An error that ends a request with a status of its own. -/
inductive GatewayError
  | general (detail : String)
  | siteNotFound (host : String)
  /-- A query went wrong; callers never see the detail. -/
  | lookupFailed (detail : String)
  | unauthenticated (location flash : String)
  | invalidToken (detail : String)
  | forbidden (detail : String)
  | notAdmin (detail : String)
  | deadlineExceeded (detail : String)
  | unserializable (detail : String)
  deriving DecidableEq, Repr, Inhabited

namespace GatewayError

/-- The name of the class of an error, as the log tells it. -/
def name : GatewayError → String
  | general _ => "GatewayError"
  | siteNotFound _ => "SiteNotFound"
  | lookupFailed _ => "InternalLookupError"
  | unauthenticated _ _ => "Unauthenticated"
  | invalidToken _ => "InvalidToken"
  | forbidden _ => "Forbidden"
  | notAdmin _ => "NotFoundOrNotAdmin"
  | deadlineExceeded _ => "DeadlineExceeded"
  | unserializable _ => "SerializationError"

/-- The status that an error is answered with. -/
def status : GatewayError → Nat
  | siteNotFound _ => 400
  | unauthenticated _ _ => 303
  | invalidToken _ => 401
  | forbidden _ => 403
  | notAdmin _ => 404
  | deadlineExceeded _ => 504
  | general _ | lookupFailed _ | unserializable _ => 500

/-- The standard phrase of the status. -/
def phrase : GatewayError → String
  | siteNotFound _ => "Bad Request"
  | unauthenticated _ _ => "See Other"
  | invalidToken _ => "Unauthorized"
  | forbidden _ => "Forbidden"
  | notAdmin _ => "Not Found"
  | deadlineExceeded _ => "Gateway Timeout"
  | general _ | lookupFailed _ | unserializable _ => "Internal Server Error"

/-- What is said on the way to the sign-in page. -/
def defaultFlash : String := "Need to log in"

/-- The text of an answer that came too late. -/
def defaultTimeoutDetail : String := "Server timed out"

/-- What an error says, to the log at least. -/
def detail : GatewayError → String
  | siteNotFound host => "no site at this domain (" ++ Quoted.literal host ++ ")"
  | unauthenticated _ flash => flash
  | general d | lookupFailed d | invalidToken d | forbidden d | notAdmin d | deadlineExceeded d
  | unserializable d => d

/-- What the caller is told: the detail, or the phrase if there is none or it is internal. -/
def publicDetail (e : GatewayError) : String :=
  match e with
  | lookupFailed _ => e.phrase
  | _ => if e.detail.isEmpty then e.phrase else e.detail

end GatewayError

/-- Why there can be no tables under an address. -/
inductive Unreachable
  | malformed
  | unknownKind
  /-- Nothing is here that could talk to a database of that kind. -/
  | absentDriver
  /-- What is here would make all requests wait. -/
  | blockingDriver
  deriving DecidableEq, Repr, Inhabited

/-- The name of the class that is raised. -/
def Unreachable.name : Unreachable → String
  | malformed => "ArgumentError"
  | unknownKind => "NoSuchModuleError"
  | absentDriver => "ModuleNotFoundError"
  | blockingDriver => "InvalidRequestError"

/-- Whatever can be raised: an error of the gateway, or one of the runtime or of a library. -/
inductive Failure
  | gateway (e : GatewayError)
  | timeout (message : String)
  | cancelled (message : String)
  | value (message : String)
  | run (message : String)
  | recursion (message : String)
  | notImplemented (message : String)
  | type (message : String)
  | overflow (message : String)
  | key (message : String)
  | os (message : String)
  | database (message : String)
  | integrity (message : String)
  | sessionToken (message : String)
  | invalidKey
  | cookie
  | unencodable
  | assertion
  /-- A statement names a column that is not there. -/
  | unknownColumn
  /-- More than one statement was to run at a time. -/
  | severalStatements
  /-- No tables are reached under the address of the database. -/
  | unreachable (cause : Unreachable)
  deriving DecidableEq, Repr, Inhabited

namespace Failure

/-- A number without a place in the standard was to be written as JSON. -/
def notCompliant : Failure := .value "Out of range float values are not JSON compliant"

/-- The name of the class of a failure. -/
def name : Failure → String
  | gateway e => e.name
  | timeout _ => "TimeoutError"
  | cancelled _ => "CancelledError"
  | value _ => "ValueError"
  | run _ => "RuntimeError"
  | recursion _ => "RecursionError"
  | notImplemented _ => "NotImplementedError"
  | type _ => "TypeError"
  | overflow _ => "OverflowError"
  | key _ => "KeyError"
  | os _ => "OSError"
  | database _ => "OperationalError"
  | integrity _ => "IntegrityError"
  | sessionToken _ => "SessionTokenError"
  | invalidKey => "InvalidKeyError"
  | cookie => "CookieError"
  | unencodable => "UnicodeEncodeError"
  | assertion => "AssertionError"
  | unknownColumn => "CompileError"
  | severalStatements => "ProgrammingError"
  | unreachable cause => cause.name

/-- Failures of a query that callers of the store are ready for. -/
def isDatabase : Failure → Bool
  | database _ | integrity _ => true
  | _ => false

/-- Whether a task was cancelled. -/
def isCancelled : Failure → Bool
  | cancelled _ => true
  | _ => false

/-- Whether a time limit has run out. -/
def isTimeout : Failure → Bool
  | timeout _ => true
  | _ => false

/-- The text of a failure where a report of it has one. -/
def message? : Failure → Option String
  | timeout m | value m | run m | recursion m | notImplemented m | type m | integrity m
  | sessionToken m => some m
  | _ => none

/-- The text that goes along with a failure. -/
def text : Failure → String
  | gateway e => e.detail
  | timeout m | cancelled m | value m | run m | recursion m | notImplemented m | type m | overflow m
  | key m | os m | database m | integrity m | sessionToken m => m
  | invalidKey | cookie | unencodable | assertion | unknownColumn | severalStatements
  | unreachable _ => ""

end Failure

end Gatehouse
