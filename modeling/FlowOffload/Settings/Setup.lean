import FlowOffload.Rule
import FlowOffload.Settings

/-!
# Set-up errors — why a data plane does not start

Set-up is the one part of the system whose errors end it.
-/

namespace FlowOffload

/-- Why set-up failed. -/
inductive SetupError where
  /-- The settings cannot be run with. -/
  | invalidConfig (text : String)
  /-- The settings could not be read from their file. -/
  | io (text : String)
  /-- The settings are not JSON, or do not fit. -/
  | json
  /-- The check of the settings was given up without a verdict. -/
  | overflow
  /-- A default rule was refused. -/
  | defaultRule (error : DeviceError)
  /-- The aged event could not be registered for. -/
  | eventRegister (error : DeviceError)
  /-- A thread could not be started. -/
  | spawnFailed (text : String)
  /-- It runs already. -/
  | alreadyRunning
deriving DecidableEq

/-- The wording of a set-up error. -/
def SetupError.message : SetupError → String
  | .invalidConfig text => "config error: " ++ text
  | .io text => "IO error: " ++ text
  | .json => "config parse error"
  | .overflow => "port range overflow"
  | .defaultRule e => "failed to create default flow rule: " ++ e.message
  | .eventRegister e => "failed to register aged event: " ++ e.message
  | .spawnFailed text => "failed to launch worker: " ++ text
  | .alreadyRunning => "offload runtime already running"

/-- A fault of the settings as a set-up error. -/
def SetupError.ofFault : Settings.Fault → SetupError
  | .overflow => .overflow
  | f => .invalidConfig f.message

/-- Refuses settings that cannot be run with. -/
def Settings.check (s : Settings) : Except SetupError Unit :=
  match s.fault? with
  | some f => .error (.ofFault f)
  | none => .ok ()

end FlowOffload
