import Gatehouse.Settings.Basic
import Gatehouse.Validation.Number

/-! # Loading settings

Values come from the environment, under names that start with `TGW_`, and from overrides that
are given directly and count more. Names are compared without regard to case; an unknown name is
ignored in the environment and a fault among the overrides. -/

namespace Gatehouse.Settings

/-- Why settings could not be loaded. -/
inductive LoadFault
  /-- The list of exempt paths in the environment is no JSON text. -/
  | unreadable (field : String)
  /-- It is nested too deep. -/
  | tooDeep (what : Json.Container)
  | invalid (faults : List FieldFault)
  deriving DecidableEq, Repr

/-- What is said of a field whose text in the environment is no JSON. -/
def unreadableMessage (field : String) : String :=
  "error parsing value for field \"" ++ field ++ "\" from source \"EnvSettingsSource\""

/-- A nesting that goes too deep is not a fault of the settings but breaks the work. -/
def depthMessage (what : Json.Container) : String :=
  "maximum recursion depth exceeded while decoding a JSON " ++
    (match what with
      | .list => "array"
      | .object => "object") ++ " from a unicode string"

/-- Where the value of a field may come from, by its name. -/
abbrev RawValues := String → Option Json

/-- Lower case of the characters that have an ASCII one; the Kelvin sign is one of them. -/
def foldCase (s : String) : String :=
  String.ofList (s.toList.map fun c => if c == '\u212A' then 'k' else c.toLower)

/-- The names of all fields. -/
def fieldNames : List String :=
  ["env", "service_name", "log_level", "version", "api_host", "api_port", "database_url", "domain",
    "status_path", "signin_path", "site_exempt_paths", "flash_cookie", "explain_cookie",
    "session_cookie", "session_alg", "session_issuer", "session_secret", "session_ttl_minutes",
    "timeout_admin_s", "timeout_root_s", "timeout_default_s", "persist_interval_s"]

/-! ### Fields -/

/-- The kind of a deployment, by its name. -/
def readDeployment : Json → Except FaultKind Deployment
  | .text "dev" => .ok .dev
  | .text "test" => .ok .test
  | .text "prod" => .ok .prod
  | _ => .error (.literal "'dev', 'test' or 'prod'")

/-- The value of a field, or its default if none is given. -/
def field (raw : RawValues) (name : String) (initial : α) (read : Json → Except FaultKind α) :
    Checked α :=
  match raw name with
  | none => .valid initial
  | some v => .atPlace [.name name] (read v)

/-- Each item is looked at on its own. -/
def checkPaths (name : String) : Nat → List Json → Checked (List String)
  | _, [] => .valid []
  | i, v :: rest =>
    (· :: ·) <$> Checked.atPlace [.name name, .index i] (Lenient.text v) <*>
      checkPaths name (i + 1) rest

/-- A field that is a list of paths. -/
def pathsField (raw : RawValues) (name : String) (initial : List String) : Checked (List String) :=
  match raw name with
  | none => .valid initial
  | some (.list items) => checkPaths name 0 items
  | some _ => .invalid [⟨[.name name], .tupleType⟩]

/-- All fields, or the faults of all that are faulty. -/
def check (raw : RawValues) : Checked Settings :=
  let d := initial
  Settings.mk <$> field raw "env" d.deployment readDeployment
    <*> field raw "service_name" d.serviceName Lenient.text
    <*> field raw "log_level" d.logLevel Lenient.text
    <*> field raw "version" d.version Lenient.text
    <*> field raw "api_host" d.apiHost Lenient.text
    <*> field raw "api_port" d.apiPort Lenient.int
    <*> field raw "database_url" d.databaseUrl Lenient.text
    <*> field raw "domain" d.domain Lenient.text
    <*> field raw "status_path" d.statusPath Lenient.text
    <*> field raw "signin_path" d.signinPath Lenient.text
    <*> pathsField raw "site_exempt_paths" d.exemptPaths
    <*> field raw "flash_cookie" d.flashCookie Lenient.text
    <*> field raw "explain_cookie" d.explainCookie Lenient.text
    <*> field raw "session_cookie" d.sessionCookie Lenient.text
    <*> field raw "session_alg" d.sessionAlgorithm Lenient.text
    <*> field raw "session_issuer" d.sessionIssuer Lenient.text
    <*> field raw "session_secret" d.sessionSecret Lenient.text
    <*> field raw "session_ttl_minutes" d.sessionMinutes Lenient.int
    <*> field raw "timeout_admin_s" d.adminSeconds Lenient.float
    <*> field raw "timeout_root_s" d.rootSeconds Lenient.float
    <*> field raw "timeout_default_s" d.defaultSeconds Lenient.float
    <*> field raw "persist_interval_s" d.persistSeconds Lenient.float

/-! ### Sources -/

/-- The last value under a name, without regard to case. -/
def findFolded (values : List (String × α)) (name : String) : Option α :=
  (values.reverse.find? fun v => foldCase v.1 == name).map (·.2)

/-- What the names of the gateway's variables start with, in lower case. -/
def environmentStart : String := "tgw_"

/-- The environment is text. The list of exempt paths is written in it as JSON, `null` for the
default. -/
def environmentValues (environment : List (String × String)) : Except LoadFault RawValues :=
  let plain name := findFolded environment (environmentStart ++ name)
  match plain "site_exempt_paths" with
  | none => .ok fun name => (plain name).map .text
  | some s =>
    match Json.read s.toList with
    | .error (.tooDeep what) => .error (.tooDeep what)
    | .error _ => .error (.unreadable "site_exempt_paths")
    | .ok v =>
      .ok fun name =>
        if name == "site_exempt_paths" then if v.isNull then none else some v
        else (plain name).map .text

/-- Overrides whose name no field has. -/
def unknownNames (overrides : List (String × Json)) : List FieldFault :=
  overrides.filterMap fun (name, _) =>
    if fieldNames.contains (foldCase name) then none else some ⟨[.name name], .extraForbidden⟩

/-- The settings that the environment and the overrides set; overrides count more. -/
def load (environment : List (String × String)) (overrides : List (String × Json)) :
    Except LoadFault Settings := do
  let fromEnvironment ← environmentValues environment
  let raw := fun name => (findFolded overrides name).orElse fun _ => fromEnvironment name
  match check raw, unknownNames overrides with
  | .valid s, [] => return s
  | checked, unknown => throw (.invalid (checked.faults ++ unknown))

end Gatehouse.Settings
