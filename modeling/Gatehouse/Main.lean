import Gatehouse.Gateway.Launch
import Gatehouse.Gateway.Report

/-! # The command line

Reads the settings from the environment and tells what the server in front of the gateway is to be
started with, or what is wrong with the settings. -/

namespace Gatehouse.CommandLine

/-- The variables of the environment that are set, under the names of the fields. -/
def environment : IO (List (String × String)) :=
  Settings.fieldNames.filterMapM fun name => do
    let key := Settings.environmentStart.toUpper ++ name.toUpper
    return (← IO.getEnv key).map fun value => (key, value)

/-- The line that a start of the gateway prints, or what keeps it from starting. -/
def report (environment : List (String × String)) : Except String String :=
  match Settings.load environment [] with
  | .error fault => .error fault.report
  | .ok s =>
    match Launch.ofSettings s with
    | .error f => .error f.text
    | .ok l => .ok l.report

end Gatehouse.CommandLine

def main : IO UInt32 := do
  match Gatehouse.CommandLine.report (← Gatehouse.CommandLine.environment) with
  | .ok line =>
    IO.println line
    return 0
  | .error line =>
    IO.eprintln line
    return 1
