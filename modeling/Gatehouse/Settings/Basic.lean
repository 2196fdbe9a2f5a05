import Gatehouse.Number.Binary64

/-! # Settings

Everything that a deployment can choose. In production there is no fallback to the only site and
no explain cookie. -/

namespace Gatehouse

/-- What a deployment is for. -/
inductive Deployment
  | dev
  | test
  | prod
  deriving DecidableEq, Repr

def Deployment.name : Deployment → String
  | dev => "dev"
  | test => "test"
  | prod => "prod"

/-- Everything that a deployment can set. -/
structure Settings where
  deployment : Deployment
  serviceName : String
  logLevel : String
  version : String
  apiHost : String
  apiPort : Int
  databaseUrl : String
  /-- Sites are reachable under their code in front of this domain. -/
  domain : String
  statusPath : String
  signinPath : String
  /-- Requests whose path starts with one of these have no site. -/
  exemptPaths : List String
  flashCookie : String
  explainCookie : String
  sessionCookie : String
  sessionAlgorithm : String
  sessionIssuer : String
  sessionSecret : String
  sessionMinutes : Int
  adminSeconds : Binary64
  rootSeconds : Binary64
  defaultSeconds : Binary64
  persistSeconds : Binary64
  deriving DecidableEq, Repr

namespace Settings

/-- So many seconds. -/
def wholeSeconds (n : Nat) : Binary64 := Binary64.ofRatio false n 1

/-- The settings of a deployment that sets nothing. -/
def initial : Settings where
  deployment := .dev
  serviceName := "tenant-gateway"
  logLevel := "INFO"
  version := "0.1.0"
  apiHost := "0.0.0.0"
  apiPort := 8081
  databaseUrl := "sqlite+aiosqlite:///./tenant_gateway.db"
  domain := "localhost"
  statusPath := "/status"
  signinPath := "/user/new"
  exemptPaths := ["/healthz", "/readyz", "/docs", "/openapi.json"]
  flashCookie := "flash"
  explainCookie := "debug-explain"
  sessionCookie := "key"
  sessionAlgorithm := "HS256"
  sessionIssuer := "tenant-gateway"
  sessionSecret := "dev-secret-change-me"
  sessionMinutes := 60 * 24 * 30
  adminSeconds := wholeSeconds 120
  rootSeconds := wholeSeconds 11
  defaultSeconds := wholeSeconds 3
  persistSeconds := wholeSeconds 10

/-- Whether a deployment is in production. -/
def prod (s : Settings) : Bool := s.deployment = .prod

end Settings

end Gatehouse
