/-
# Calls to the execution backend

What the editor asks of the backend that stores definitions as versioned templates and runs them.
The arguments of a call are free-form: they are handed on as they are.
-/

import FlowGraph.Failure
import FlowGraph.Value.Basic

namespace FlowGraph

/-- A call to the execution backend. -/
inductive Call where
  | createTemplate (name definition mode description changeNote : Value)
  | createVersion (templateId definition mode changeNote : Value)
  | readDefinition (templateId version : Value)
  | listTemplates (includeInactive : Value)
  | startRun (templateId version input context key : Value)
  | readRun (runId : Value)
  | listRuns (templateId status limit offset : Value)
  | completeTask (taskId decision note : Value)

/-- What comes back from a call. -/
abbrev Reply := Except Failure Value

namespace Call

/-- The name of a call. -/
def name : Call → String
  | createTemplate .. => "create_template"
  | createVersion .. => "create_template_version"
  | readDefinition .. => "get_template_definition"
  | listTemplates .. => "list_templates"
  | startRun .. => "start_manual_run"
  | readRun .. => "get_run"
  | listRuns .. => "list_runs"
  | completeTask .. => "complete_task"

/-- The arguments of a call by their names. -/
def arguments : Call → Fields Value
  | createTemplate name definition mode description changeNote =>
    [("name", name), ("definition", definition), ("definition_mode", mode),
     ("description", description), ("change_note", changeNote)]
  | createVersion templateId definition mode changeNote =>
    [("template_id", templateId), ("definition", definition), ("definition_mode", mode),
     ("change_note", changeNote)]
  | readDefinition templateId version => [("template_id", templateId), ("version", version)]
  | listTemplates includeInactive => [("include_inactive", includeInactive)]
  | startRun templateId version input context key =>
    [("template_id", templateId), ("template_version", version), ("input", input),
     ("context", context), ("idempotency_key", key)]
  | readRun runId => [("run_id", runId)]
  | listRuns templateId status limit offset =>
    [("template_id", templateId), ("status", status), ("limit", limit), ("offset", offset)]
  | completeTask taskId decision note =>
    [("task_id", taskId), ("decision", decision), ("note", note)]

/-- Arguments, some of which have defaults. Each that has none must be given, and no other than
these. -/
def collect (needed : List String) (defaults given : Fields Value) :
    Except Failure (String → Value) :=
  let known := needed ++ defaults.map Prod.fst
  if needed.all (Fields.has given) && given.all fun pair => known.contains pair.1 then
    .ok fun name => ((Fields.get? given name).or (Fields.get? defaults name)).getD .null
  else .error .unsuitable

/-- The call of this name with these arguments. -/
def read (name : String) (given : Fields Value) : Except Failure Call :=
  let noText := Value.text ""
  match name with
  | "create_template" => do
    let get ← collect ["name", "definition", "definition_mode"]
      [("description", noText), ("change_note", noText)] given
    return .createTemplate (get "name") (get "definition") (get "definition_mode")
      (get "description") (get "change_note")
  | "create_template_version" => do
    let get ← collect ["template_id", "definition", "definition_mode"] [("change_note", noText)]
      given
    return .createVersion (get "template_id") (get "definition") (get "definition_mode")
      (get "change_note")
  | "get_template_definition" => do
    let get ← collect ["template_id"] [("version", .null)] given
    return .readDefinition (get "template_id") (get "version")
  | "list_templates" => do
    let get ← collect [] [("include_inactive", .bool false)] given
    return .listTemplates (get "include_inactive")
  | "start_manual_run" => do
    let get ← collect ["template_id", "template_version", "input", "context", "idempotency_key"] []
      given
    return .startRun (get "template_id") (get "template_version") (get "input") (get "context")
      (get "idempotency_key")
  | "get_run" => do
    let get ← collect ["run_id"] [] given
    return .readRun (get "run_id")
  | "list_runs" => do
    let get ← collect []
      [("template_id", .null), ("status", .null), ("limit", .null), ("offset", .null)] given
    return .listRuns (get "template_id") (get "status") (get "limit") (get "offset")
  | "complete_task" => do
    let get ← collect ["task_id", "decision"] [("note", .null)] given
    return .completeTask (get "task_id") (get "decision") (get "note")
  | _ => .error .notMapping

end Call

end FlowGraph
