/-
# Loading into a session

Replaces the document by a saved template, or by the template that a past run executed, with the
input of that run. Each load takes a number when it starts; an answer that arrives after a newer
load was started is dropped.
-/

import FlowGraph.Definition.RunInput
import FlowGraph.Session.Basic

namespace FlowGraph.Session

open FlowGraph.Text

/-- Starts to load a template; for a run, with the run's detail. -/
def startLoad (session : Session) (templateId version : Value) (run : Option Value) : Turn :=
  let token := session.loads + 1
  { session := { session with loads := token }
    next := .ask (.readDefinition templateId version) (.definition token templateId run) }

/-- Loads a template. -/
def loadTemplate (session : Session) (templateId version : Value) : Turn :=
  session.startLoad templateId version none

/-- Opens the template of a run. -/
def loadRun (session : Session) (runId : Value) : Turn :=
  { session, next := .ask (.readRun runId) (.runDetail runId) }

/-- The mapping under a key; anything else there counts as an empty one. -/
def part (fields : Fields Value) (key : String) : Value :=
  .object ((Fields.get? fields key).getD .null).fields

/-- The name of a template that was read. -/
def templateName (template : Value) : String :=
  let name := trim ((template.field "name").orElse (.text Document.defaultName)).display
  if name = "" then Document.defaultName else name

/-- What is loaded from an answer: the document, and what the session then knows of its template.
The version is as it was sent. -/
structure Loaded where
  document : Document
  templateId : String
  version : Value
  name : String

/-- Reads the answer to a load. What is no definition counts as an empty one. -/
def readLoaded (templateId : Value) (response : Value) : Except Failure Loaded := do
  let fields ← answerFields response
  let template := part fields "template"
  let version := part fields "version"
  let name := templateName template
  return {
    document := ← Load.document (.object (version.field "definition").fields) name
    templateId := ((template.field "id").orElse templateId).display
    version := version.field "version"
    name }

/-- The document that a run executed: the loaded one, with the run's input. -/
def withRunInput (document : Document) (run : Option Value) : Document :=
  match run with
  | some detail => (RunInput.apply document ((detail.field "run").field "input")).getD document
  | none => document

/-- The outcome of a load. -/
def loadOutcome (run : Option Value) (replaced : Bool) : Outcome :=
  match run with
  | some detail => .opened detail replaced
  | none => .loaded replaced

/-- Takes over what was loaded. The document and its template come first: they stay even if the
version is out of range. -/
def adopt (session : Session) (loaded : Loaded) (run : Option Value) : Turn :=
  let taken : Session :=
    { session with
      timeline := session.timeline.reset loaded.document
      templateId := some loaded.templateId
      replacements := session.replacements + 1 }
  match positive? loaded.version with
  | .error failure => taken.finish (.error failure)
  | .ok version =>
    finish
      { taken with
        timeline := taken.timeline.reset (withRunInput loaded.document run)
        templateVersion := version
        savedName := some loaded.name }
      (.ok (loadOutcome run true))

/-- Receives the definition that a load asked for. -/
def receiveDefinition (session : Session) (token : Nat) (templateId : Value) (run : Option Value)
    (response : Value) : Turn :=
  if token ≠ session.loads then session.finish (.ok (loadOutcome run false))
  else
    match readLoaded templateId response with
    | .ok loaded => session.adopt loaded run
    | .error failure => session.finish (.error failure)

/-- Receives the detail of a run to open: from now on this is the active run. -/
def receiveRun (session : Session) (runId detail : Value) : Turn :=
  match answerFields detail with
  | .error failure => session.finish (.error failure)
  | .ok fields =>
    let run := part fields "run"
    let active := { session with activeRunId := runId }
    let templateId := (run.field "workflow_template_id").trimmedText
    if templateId = "" then active.finish (.ok (.opened detail false))
    else
      match positive? (run.field "workflow_template_version") with
      | .error failure => active.finish (.error failure)
      | .ok version =>
        active.startLoad (.text templateId) ((version.map Value.int).getD .null) (some detail)

end FlowGraph.Session
