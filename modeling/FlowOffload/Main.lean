import FlowOffload.Replay

/-!
# The replay as a program

The environment variable `SMTO_CONFIG` names the file with the settings.  Without it, or if the file
cannot be used, the defaults apply.  The counters are printed when the replay is over.
-/

namespace FlowOffload.Replay

/-- The content of the settings file, if there is one. -/
def settingsFile : IO (Option ByteArray) := do
  match ← IO.getEnv "SMTO_CONFIG" with
  | none => return none
  | some path =>
    try
      return some (← IO.FS.readBinFile path)
    catch _ => return none

end FlowOffload.Replay

/-- Runs the replay and prints its counters. -/
def main : IO UInt32 := do
  let outcome := FlowOffload.Replay.ofFile (← FlowOffload.Replay.settingsFile)
  IO.print outcome.output
  return outcome.exitCode
