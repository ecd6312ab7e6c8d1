import HMSignature.CommandLine.Basic
import HMSignature.Descriptor.Builtin
/-!
# The program

Runs the command line with the environment variables that configure it.
-/

namespace HMSignature

/-- The variables that configure the program. -/
def settingNames : List String :=
  ["HMDEF_CHECK_TYPES", "HMDEF_LOG_LEVEL"]

/-- What the program finds when it starts; it comes without sources. -/
def startSetting : IO CommandLine.Setting := do
  let assigned ← settingNames.filterMapM fun name => do
    return (← IO.getEnv name).map fun value => (name, value)
  return ⟨assigned, .empty, Builtin.firstFree⟩

end HMSignature

/-- Prints the report of a run and exits with its code. -/
def main (args : List String) : IO UInt32 := do
  match HMSignature.CommandLine.program (← HMSignature.startSetting) args with
  | .ok report =>
      IO.print (HMSignature.CommandLine.Report.lineText report.output)
      IO.eprint (HMSignature.CommandLine.Report.lineText report.log)
      return report.code.toUInt32
  | .error failure =>
      IO.eprintln failure.message
      return 1
