/-
# Editing sessions

One operator edits one workflow. A session holds the document with its history, and which template
of the backend the document belongs to. Its operations wait for the backend, and other operations
may come in between; so an operation is a sequence of *turns*, each of which takes the session as
it is at that time. What an operation has to remember while it waits is plain data.
-/

import FlowGraph.Backend.Call
import FlowGraph.Definition.Load
import FlowGraph.Settings.Active
import FlowGraph.Timeline

namespace FlowGraph

/-- The state of an editing session. `loads` counts the template loads started so far, and
`replacements` those that replaced the document. The active run goes by whatever it was called. -/
structure Session where
  timeline : Timeline
  policy : Policy := {}
  pollInterval : Value := .int 0
  templateId : Option String := none
  templateVersion : Option Int := none
  savedName : Option String := none
  activeRunId : Value := .null
  loads : Nat := 0
  replacements : Nat := 0
  isClosed : Bool := false

/-- The template that a document was saved as. -/
structure SaveResult where
  templateId : String
  version : Option Int
  created : Bool
  deriving DecidableEq, Repr

/-- What an operation ends with. -/
inductive Outcome where
  /-- A template was loaded, unless a newer load had been started. -/
  | loaded (replaced : Bool)
  /-- A run was opened; its template was loaded unless there was none or a newer load. -/
  | opened (detail : Value) (replaced : Bool)
  /-- The document was saved. -/
  | saved (result : SaveResult)
  /-- A run was started. -/
  | started (response : Value)
  /-- A run ended, or the session was closed before it did. -/
  | followed (detail : Option Value)
  /-- A task was completed. -/
  | completed (response : Value)

/-- What an operation remembers while it waits for an answer. -/
inductive Pending where
  /-- A definition is being read by the load of this number; for a run, with the run's detail. -/
  | definition (token : Nat) (templateId : Value) (run : Option Value)
  /-- The detail of a run to open is being read. -/
  | runDetail (runId : Value)
  /-- The document is being saved under a name, as a new template or a new version; for a run, with
  the key of the run to start. -/
  | save (name : String) (isNew : Bool) (runKey : Option Value)
  /-- A run is being started. -/
  | runStart
  /-- The detail of a run that is followed is being fetched. -/
  | fetch (runId : Value)
  /-- A task is being completed. -/
  | task
  deriving Inhabited

/-- How an operation goes on. -/
inductive Next where
  /-- It waits for the answer to a call. -/
  | ask (call : Call) (pending : Pending)
  /-- It follows a run and sleeps until the next fetch. -/
  | sleep (runId : Value)
  /-- It has ended. -/
  | done (result : Except Failure Outcome)

/-- A turn of an operation: the session after it, the run detail it reports, and how the operation
goes on. -/
structure Turn where
  session : Session
  update : Option Value := none
  next : Next

namespace Session

/-- The document that is being edited. -/
def document (session : Session) : Document := session.timeline.present

/-- The session with another document history. -/
def withTimeline (session : Session) (timeline : Timeline) : Session :=
  { session with timeline := timeline }

/-- A new session on a document, with what it needs to know of the settings. -/
def opening (settings : Settings) (document : Document) (pollInterval : Option Value) :
    Except Failure Session := do
  let policy ← settings.policy
  return {
    timeline := { limit := settings.historyLimit, present := document }
    policy
    pollInterval := pollInterval.getD settings.pollInterval }

/-- The operation ends here. -/
def finish (session : Session) (result : Except Failure Outcome) : Turn :=
  { session, next := .done result }

/-- The fields of an answer, which has to be an object. -/
def answerFields (response : Value) : Except Failure (Fields Value) :=
  match response with
  | .object fields => .ok fields
  | _ => .error .notMapping

/-- A positive integer read generously from a free-form value. The infinite ones are out of
range. -/
def positive? (value : Value) : Except Failure (Option Int) := do
  return (← Load.looseInt? value).bind fun n => if 0 < n then some n else none

end Session

end FlowGraph
