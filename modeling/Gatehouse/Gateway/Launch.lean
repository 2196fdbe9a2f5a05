import Gatehouse.Log.Threshold
import Gatehouse.Settings.Load
import Gatehouse.Store.Location

/-! # Launching

What the server in front of the gateway is started with. The log is set up first: settings that
name no usable threshold do not start. Neither do settings without a place for the tables or
without a version to tell. The server brings no log set-up of its own. -/

namespace Gatehouse

/-- What the server is started with. -/
structure Launch where
  host : String
  port : Int
  title : String
  version : String
  deployment : Deployment
  deriving DecidableEq, Repr

namespace Launch

def gatewayTitle : String := "Tenant Gateway"

/-- An application has to have a version. -/
def checkVersion (s : Settings) : Except Failure Unit :=
  if s.version.isEmpty then .error .assertion else .ok ()

/-- Whether a gateway can start over tables that are there already. -/
def checkOverTables (s : Settings) : Except Failure Unit := do
  let _ ← Threshold.ofName s.logLevel
  checkVersion s

/-- What the settings start, if log level, database and version can be used. -/
def ofSettings (s : Settings) : Except Failure Launch := do
  let _ ← Threshold.ofName s.logLevel
  Location.check s.databaseUrl
  checkVersion s
  return ⟨s.apiHost, s.apiPort, gatewayTitle, s.version, s.deployment⟩

end Launch

end Gatehouse
