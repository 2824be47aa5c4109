/-
# Settings groups

The settings of the program in named groups, each setting with its default and with what an editor
for it has to know. The values of a group are free-form: they are checked where they are used.
-/

import FlowGraph.Failure
import FlowGraph.Settings.Environment

namespace FlowGraph

/-- How a setting is edited. -/
inductive Widget where
  | text
  | password
  | number
  | toggle
  | select
  | url
  deriving DecidableEq, Repr

/-- The name of a way to edit a setting. -/
def Widget.name : Widget → String
  | text => "string"
  | password => "password"
  | number => "number"
  | toggle => "boolean"
  | select => "select"
  | url => "url"

/-- A value to choose, and how it is shown. -/
structure Choice where
  value : String
  label : String

/-- A setting. -/
structure Setting where
  name : String
  envName : String
  initial : Value
  widget : Widget
  label : String
  description : String := ""
  required : Bool := false
  placeholder : String := ""
  choices : List Choice := []
  least : Option Value := none
  greatest : Option Value := none
  panel : String := "general"
  secure : Bool := false

/-- A group of settings; a group need not declare anything. -/
structure SettingsGroup where
  name : Option String := none
  title : String := ""
  description : String := ""
  category : String := "general"
  settings : List Setting := []

namespace SettingsGroup

/-- What stands for a secret that is set. -/
def mask : String := "********"

/-- The default values. -/
def defaults (group : SettingsGroup) : Fields Value :=
  group.settings.map fun setting => (setting.name, setting.initial)

/-- The environment variable of each setting. -/
def sources (group : SettingsGroup) : Fields String :=
  group.settings.map fun setting => (setting.name, setting.envName)

/-- The values under an environment. -/
def load (group : SettingsGroup) (environment : Fields String) : Fields Value :=
  Fields.setAll group.defaults
    (Settings.readEnvironment group.defaults group.sources environment)

/-- The default values with some given ones on top, all of which have to belong to the group. -/
def instantiate (group : SettingsGroup) (given : Fields Value) : Except Failure (Fields Value) :=
  if given.all fun pair => Fields.has group.defaults pair.1 then
    .ok (Fields.setAll group.defaults given)
  else .error .unsuitable

/-- The values as they are shown, with secrets masked. -/
def masked (group : SettingsGroup) (values : Fields Value) : Fields Value :=
  values.map fun (name, value) =>
    let isSecret := group.settings.any fun setting => setting.secure && setting.name = name
    (name, if isSecret && value.isTruthy then .text mask else value)

/-- The name of a group that has one. -/
def requireName (group : SettingsGroup) : Except Failure String :=
  match group.name with
  | some name => .ok name
  | none => .error .unnamed

/-- The connection to the execution backend. -/
def backend : SettingsGroup :=
  { name := some "backend"
    title := "Workflow Backend"
    description :=
      "Workflow API endpoint, organization, credentials, and run polling interval."
    settings :=
      [{ name := "base_url", envName := "WORKFLOW_API_URL"
         initial := .text "http://localhost:8000", widget := .url, label := "API Base URL"
         description := "Root URL of the workflow backend API", required := true
         panel := "api" },
       { name := "org_id", envName := "WORKFLOW_ORG_ID", initial := .text "", widget := .text
         label := "Organization", description := "Organization that owns templates and runs"
         required := true, panel := "api" },
       { name := "api_token", envName := "WORKFLOW_API_TOKEN", initial := .text ""
         widget := .password, label := "API Token"
         description := "Bearer token sent with every request", panel := "api"
         secure := true },
       { name := "timeout_seconds", envName := "WORKFLOW_API_TIMEOUT", initial := .float 30
         widget := .number, label := "Request Timeout (s)", least := some (.int 1)
         greatest := some (.int 300), panel := "api" },
       { name := "poll_interval_seconds", envName := "WORKFLOW_POLL_INTERVAL"
         initial := .float 3, widget := .number, label := "Run Poll Interval (s)"
         description := "Delay between run status fetches while a run is active"
         least := some (.float 0.5), greatest := some (.int 60), panel := "runs" }] }

/-- How definitions are executed, and how far edits can be undone. -/
def execution : SettingsGroup :=
  { name := some "execution"
    title := "Execution Policy"
    description := "Parallelism cap and failure mode written into compiled definitions."
    settings :=
      [{ name := "max_parallelism", envName := "WORKFLOW_MAX_PARALLELISM", initial := .int 2
         widget := .number, label := "Max Parallel Steps", least := some (.int 1)
         greatest := some (.int 32), panel := "execution" },
       { name := "on_node_failure", envName := "WORKFLOW_ON_NODE_FAILURE"
         initial := .text "fail_fast", widget := .select, label := "On Step Failure"
         choices :=
           [{ value := "fail_fast", label := "Fail fast" },
            { value := "continue", label := "Continue other branches" }]
         panel := "execution" },
       { name := "history_limit", envName := "WORKFLOW_HISTORY_LIMIT", initial := .int 100
         widget := .number, label := "Undo History Depth", least := some (.int 1)
         greatest := some (.int 1000), panel := "editor" }] }

/-- All groups in order. -/
def all : List SettingsGroup := [backend, execution]

end SettingsGroup

end FlowGraph
