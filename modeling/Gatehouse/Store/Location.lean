import Gatehouse.Failure
import Gatehouse.Text.IntegerLiteral

/-! # Where the tables are

The address of a database names its kind and the driver that talks to it, then the place. Only one
driver lets requests go on while a query runs, and it keeps its tables in a file: its addresses
have a path but no user, host or port. -/

namespace Gatehouse

/-- The parts of the address of a database. -/
structure Location where
  kind : String
  user : String
  password : String
  host : String
  port : String
  deriving DecidableEq, Repr

namespace Location

/-- Letters, digits, underscores and plus signs; beyond ASCII any character. -/
def isKindChar (c : Char) : Bool := c.isAlphanum || c == '_' || c == '+' || 127 < c.toNat

/-- User and password, which end at an at sign, and what follows. -/
def takeUser (s : List Char) : (List Char × List Char) × List Char :=
  let user := s.takeWhile fun c => c != ':' && c != '/'
  let rest := s.dropWhile fun c => c != ':' && c != '/'
  match rest with
  | ':' :: rest =>
    match rest.dropWhile (· != '@') with
    | _ :: after => ((user, rest.takeWhile (· != '@')), after)
    | [] => (([], []), s)
  | _ =>
    match user.reverse.dropWhile (· != '@') with
    | _ :: name => ((name.reverse, []), user.drop (name.length + 1) ++ rest)
    | [] => (([], []), s)

/-- Whether a character ends the host and its port. -/
def endsHost (c : Char) : Bool := c == '/' || c == '?'

/-- The host, which may stand in brackets, and what follows it. -/
def takeHost (s : List Char) : List Char × List Char :=
  let whole := s.takeWhile fun c => !endsHost c
  match whole with
  | '[' :: inner =>
    match inner.reverse.dropWhile (· != ']') with
    | _ :: host => if host.isEmpty then ([], s) else (host.reverse, s.drop (host.length + 2))
    | [] => (whole.takeWhile (· != ':'), s.drop (whole.takeWhile (· != ':')).length)
  | _ => (whole.takeWhile (· != ':'), s.drop (whole.takeWhile (· != ':')).length)

/-- The port after a colon. -/
def takePort (s : List Char) : List Char :=
  match s with
  | ':' :: rest => rest.takeWhile fun c => !endsHost c
  | _ => []

/-- The parts of an address that has the form of one. -/
def read? (address : String) : Option Location :=
  let s := address.toList
  let kind := s.takeWhile isKindChar
  match s.dropWhile isKindChar with
  | ':' :: '/' :: '/' :: rest =>
    if kind.isEmpty then none
    else
      let ((user, password), rest) := takeUser rest
      let (host, rest) := takeHost rest
      some ⟨String.ofList kind, String.ofList user, String.ofList password, String.ofList host,
        String.ofList (takePort rest)⟩
  | _ => none

/-- The kind whose driver lets requests go on. -/
def concurrentKind : String := "sqlite+aiosqlite"

/-- Kinds that are here, but whose driver makes requests wait. -/
def blockingKinds : List String := ["sqlite", "sqlite+pysqlite"]

/-- Kinds that are known, with the drivers that are not here. -/
def absentDrivers : List (String × List String) :=
  [("sqlite", ["pysqlcipher"]),
    ("postgresql", ["asyncpg", "pg8000", "psycopg", "psycopg2", "psycopg2cffi"]),
    ("mysql", ["aiomysql", "asyncmy", "cymysql", "mariadbconnector", "mysqlconnector", "mysqldb",
      "pymysql", "pyodbc"]),
    ("mariadb", ["aiomysql", "asyncmy", "cymysql", "mariadbconnector", "mysqlconnector", "mysqldb",
      "pymysql", "pyodbc"]),
    ("mssql", ["aioodbc", "pymssql", "pyodbc"]),
    ("oracle", ["cx_oracle", "oracledb"])]

/-- Whether the kind is known but nothing is here to talk to it. -/
def isAbsent (kind : String) : Bool :=
  absentDrivers.any fun (name, drivers) =>
    kind == name || drivers.any fun driver => kind == name ++ "+" ++ driver

/-- A file has a path only. -/
def isFile (l : Location) : Bool :=
  l.user.isEmpty && l.password.isEmpty && l.host.isEmpty && l.port.isEmpty

/-- The failure of a port that is no integer. -/
def badPort (port : String) : Failure :=
  .value ("invalid literal for int() with base 10: " ++ Quoted.literal port)

def isNumber (s : String) : Bool :=
  match IntegerLiteral.read s.toList with
  | .ok _ => true
  | .error _ => false

/-- Whether a gateway can keep its tables there. -/
def check (address : String) : Except Failure Unit :=
  match read? address with
  | none => .error (.unreachable .malformed)
  | some l =>
    if !l.port.isEmpty && !isNumber l.port then .error (badPort l.port)
    else if l.kind == concurrentKind then
      if l.isFile then .ok () else .error (.unreachable .malformed)
    else if blockingKinds.contains l.kind then
      if l.isFile then .error (.unreachable .blockingDriver)
      else .error (.unreachable .malformed)
    else if isAbsent l.kind then .error (.unreachable .absentDriver)
    else .error (.unreachable .unknownKind)

end Location

end Gatehouse
