/-
# Active settings

The values in force. A group is read from the environment when it is first asked for, and keeps
these values until it is replaced or everything is dropped; a change of the environment alone is
not noticed.
-/

import FlowGraph.Definition.Basic
import FlowGraph.Settings.Group

namespace FlowGraph

/-- The environment, and the values of the groups in use. -/
structure Settings where
  environment : Fields String := []
  active : Fields (Fields Value) := []

namespace Settings

/-- The group of this name. -/
def group? (name : String) : Option SettingsGroup :=
  SettingsGroup.all.find? fun group => group.name = some name

/-- The group of this name, which has to exist. -/
def requireGroup (name : String) : Except Failure SettingsGroup :=
  match group? name with
  | some group => .ok group
  | none => .error (.unknownSettings name)

/-- The values of a group: those in use, or those that the environment gives. -/
def valuesOf (settings : Settings) (group : SettingsGroup) : Fields Value :=
  (Fields.get? settings.active (group.name.getD "")).getD (group.load settings.environment)

/-- The settings after a group was asked for: from then on its values stay in use. -/
def hold (settings : Settings) (group : SettingsGroup) : Settings :=
  { settings with
    active := Fields.set settings.active (group.name.getD "") (settings.valuesOf group) }

/-- Asks for the values of a group. -/
def use (settings : Settings) (name : String) : Except Failure (Settings × Fields Value) := do
  let group ← requireGroup name
  return (settings.hold group, settings.valuesOf group)

/-- Replaces the values of a group by its defaults with some given ones on top. -/
def replace (settings : Settings) (name : String) (given : Fields Value) :
    Except Failure Settings := do
  let values ← (← requireGroup name).instantiate given
  return { settings with active := Fields.set settings.active name values }

/-- Drops all values in use. -/
def reset (settings : Settings) : Settings := { settings with active := [] }

/-- The settings in another environment. -/
def withEnvironment (settings : Settings) (environment : Fields String) : Settings :=
  { settings with environment }

/-- The values of the connection to the execution backend. -/
def backend (settings : Settings) : Fields Value := settings.valuesOf SettingsGroup.backend

/-- The execution policy, whose values are checked here. -/
def policy (settings : Settings) : Except Failure Policy :=
  match Policy.reader (.object (settings.valuesOf SettingsGroup.execution)) with
  | .ok policy => .ok policy
  | .bad faults => .error (.invalid faults)

/-- How many documents can be gone back to. -/
def historyLimit (settings : Settings) : Int :=
  match Fields.get? (settings.valuesOf SettingsGroup.execution) "history_limit" with
  | some (.int limit) => limit
  | _ => 0

/-- The delay between two fetches of a run, as it was set. -/
def pollInterval (settings : Settings) : Value :=
  (Fields.get? settings.backend "poll_interval_seconds").getD .null

end Settings

end FlowGraph
