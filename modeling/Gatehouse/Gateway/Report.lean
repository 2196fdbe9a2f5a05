import Gatehouse.Gateway.Launch
import Gatehouse.Text.Shown

/-! # Reports

What the command line tells: a line for each fault of the settings, or one line for the launch. -/

namespace Gatehouse

/-- A step of a place as a report tells it. -/
def Place.text : Place → String
  | name s => s
  | index n => toString n

/-- A fault and its place. -/
def FieldFault.report (f : FieldFault) : String :=
  String.intercalate "." (f.place.map Place.text) ++ ": " ++ f.kind.code

/-- What keeps the settings from being loaded. -/
def Settings.LoadFault.report : Settings.LoadFault → String
  | unreadable field => Settings.unreadableMessage field
  | tooDeep what => Settings.depthMessage what
  | invalid faults => String.intercalate "\n" (faults.map FieldFault.report)

/-- What is started, and where. -/
def Launch.report (l : Launch) : String :=
  l.title ++ " " ++ l.version ++ " (" ++ l.deployment.name ++ ") on " ++ l.host ++ ":" ++
    Shown.int l.port

end Gatehouse
