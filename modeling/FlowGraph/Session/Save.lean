/-
# Saving and running a session's document

The document is compiled first, so that nothing is saved that cannot run. A document that still has
the name under which it was saved becomes a new version of its template, any other a new template.
A run is started only when no step has to be set up, and only of a document that was just saved.
-/

import FlowGraph.Definition.Compile
import FlowGraph.Readiness.Check
import FlowGraph.Session.Load

namespace FlowGraph.Session

open FlowGraph.Text

/-- What a new template is described as. -/
def createDescription : String := "Created from workflow studio"

/-- The note on the first version of a template. -/
def createNote : String := "Initial save from workflow studio"

/-- The note on every other version. -/
def updateNote : String := "Updated from workflow studio"

/-- Where a run was started from, unless its context tells. -/
def contextSource : String := "workflow-studio"

/-- The name under which the document is saved. -/
def effectiveName (document : Document) : String :=
  let name := trim document.name
  if name = "" then Document.defaultName else name

/-- The template that the document is a new version of, if it is one. -/
def savedTemplate? (session : Session) : Option String :=
  match session.templateId with
  | some id =>
    if id ≠ "" ∧ session.savedName = some (effectiveName session.document) then some id else none
  | none => none

/-- The call that saves the document, and what to remember until it is answered. -/
def saveCall (session : Session) (runKey : Option Value) : Except Failure (Call × Pending) := do
  let definition := (← session.document.compile session.policy).toWire
  let mode ← definitionMode definition
  let name := effectiveName session.document
  match session.savedTemplate? with
  | some id =>
    return (.createVersion (.text id) definition (.text mode) (.text updateNote),
      .save name false runKey)
  | none =>
    return (.createTemplate (.text name) definition (.text mode) (.text createDescription)
        (.text createNote),
      .save name true runKey)

/-- Saves the document; with a key, a run is to be started afterwards. -/
def startSave (session : Session) (runKey : Option Value) : Turn :=
  match session.saveCall runKey with
  | .ok (call, pending) => { session, next := .ask call pending }
  | .error failure => session.finish (.error failure)

/-- Saves the document. -/
def save (session : Session) : Turn := session.startSave none

/-- The version that the answer to a save names. -/
def answeredVersion (fields : Fields Value) : Except Failure (Option Int) :=
  positive? ((part fields "version").field "version")

/-- The session after a new version was saved, and what it was saved as. -/
def savedVersion (session : Session) (name : String) (fields : Fields Value) :
    Session × Except Failure SaveResult :=
  match answeredVersion fields with
  | .error failure => (session, .error failure)
  | .ok answered =>
    let version := answered.or session.templateVersion
    ({ session with templateVersion := version, savedName := some name },
      .ok { templateId := session.templateId.getD "", version, created := false })

/-- The session after a new template was saved, and what it was saved as. The backend has to tell
the template's id, which stays even if the version is out of range. -/
def savedTemplate (session : Session) (name : String) (fields : Fields Value) :
    Session × Except Failure SaveResult :=
  let id := ((part fields "template").field "id").trimmedText
  if id = "" then
    (session, .error (.backend "Workflow backend did not return a template id" none))
  else
    let named := { session with templateId := some id }
    match answeredVersion fields with
    | .error failure => (named, .error failure)
    | .ok answered =>
      let version := answered.getD 1
      ({ named with templateVersion := some version, savedName := some name },
        .ok { templateId := id, version := some version, created := true })

/-- The sample input of the document, with which a run is started. -/
def runInput (session : Session) : Fields Value :=
  (session.document.trigger?.map fun trigger => (trigger.setting "input").fields).getD []

/-- The context in which a run is started. -/
def runContext (session : Session) : Fields Value :=
  let context :=
    (session.document.trigger?.map fun trigger => (trigger.setting "context").fields).getD []
  if ((Fields.get? context "source").getD .null).trimmedText = "" then
    Fields.set context "source" (.text contextSource)
  else context

/-- Goes on after a save: ends, or starts a run of exactly what was saved. -/
def afterSave (session : Session) (result : SaveResult) (runKey : Option Value) : Turn :=
  match runKey with
  | none => session.finish (.ok (.saved result))
  | some key =>
    { session
      next := .ask
        (.startRun (.text result.templateId) ((result.version.map Value.int).getD .null)
          (.object session.runInput) (.object session.runContext) key)
        .runStart }

/-- Receives the answer to a save. -/
def receiveSave (session : Session) (name : String) (isNew : Bool) (runKey : Option Value)
    (response : Value) : Turn :=
  match answerFields response with
  | .error failure => session.finish (.error failure)
  | .ok fields =>
    let (session, saved) :=
      if isNew then session.savedTemplate name fields else session.savedVersion name fields
    match saved with
    | .ok result => session.afterSave result runKey
    | .error failure => session.finish (.error failure)

/-- The key of a run that was given none: the time of its start in milliseconds. -/
def generatedKey (clock : Nat) : String := "studio-run-" ++ Naming.numeral clock

/-- Saves the document and starts a run of it. -/
def startRun (session : Session) (key : Value) (clock : Nat) : Turn :=
  match Issue.blockers (Readiness.issues session.document) with
  | [] => session.startSave (some (key.orElse (.text (generatedKey clock))))
  | blockers => session.finish (.error (.blocked blockers))

/-- Receives the answer to the start of a run, which becomes the active one. -/
def receiveStart (session : Session) (response : Value) : Turn :=
  match answerFields response with
  | .error failure => session.finish (.error failure)
  | .ok fields =>
    let id := ((part fields "run").field "id").filledText
    let active := { session with activeRunId := if id = "" then .null else .text id }
    active.finish (.ok (.started response))

end FlowGraph.Session
