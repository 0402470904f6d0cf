import FlowOffload.Json.Pretty
import FlowOffload.Settings

/-!
# Writing settings

All settings are written, in their order, as a JSON object with one member to a line.
-/

namespace FlowOffload.Settings

/-- The written form of a value. -/
def Value.render : Value → String
  | .number n => toString n
  | .address a => Json.quoted (Ipv4.render a)
  | .flag b => if b then "true" else "false"

/-- The text that stands for settings. -/
def render (s : Settings) : String :=
  Json.object (Field.all.map fun f => (f.name, (s.value f).render))

end FlowOffload.Settings
