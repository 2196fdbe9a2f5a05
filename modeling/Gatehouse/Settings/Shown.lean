import Gatehouse.Settings.Basic
import Gatehouse.Text.Shown

/-! # Showing settings

Settings are printed for operators with all their fields but the secret that signs sessions. -/

namespace Gatehouse.Settings

/-- A tuple of texts; a comma follows an only item. -/
def shownPaths (paths : List String) : String :=
  let items := String.intercalate ", " (paths.map Quoted.literal)
  "(" ++ items ++ (if paths.length == 1 then ",)" else ")")

def shownSeconds (x : Binary64) : String := Shown.floatText.write x

/-- The fields by the names that they are shown under. -/
def shownFields (s : Settings) : List (String × String) :=
  [("env", Quoted.literal s.deployment.name), ("service_name", Quoted.literal s.serviceName),
    ("log_level", Quoted.literal s.logLevel), ("version", Quoted.literal s.version),
    ("api_host", Quoted.literal s.apiHost), ("api_port", Shown.int s.apiPort),
    ("database_url", Quoted.literal s.databaseUrl), ("domain", Quoted.literal s.domain),
    ("status_path", Quoted.literal s.statusPath), ("signin_path", Quoted.literal s.signinPath),
    ("site_exempt_paths", shownPaths s.exemptPaths),
    ("flash_cookie", Quoted.literal s.flashCookie),
    ("explain_cookie", Quoted.literal s.explainCookie),
    ("session_cookie", Quoted.literal s.sessionCookie),
    ("session_alg", Quoted.literal s.sessionAlgorithm),
    ("session_issuer", Quoted.literal s.sessionIssuer),
    ("session_ttl_minutes", Shown.int s.sessionMinutes),
    ("timeout_admin_s", shownSeconds s.adminSeconds),
    ("timeout_root_s", shownSeconds s.rootSeconds),
    ("timeout_default_s", shownSeconds s.defaultSeconds),
    ("persist_interval_s", shownSeconds s.persistSeconds)]

/-- The settings as a record, without their secret. -/
def shown (s : Settings) : String := Shown.record "Settings" s.shownFields

end Gatehouse.Settings
