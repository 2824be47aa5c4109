/-
# The turns of an operation

How operations go on when an answer arrives or a pause ends, and how an operation runs to its end
when nothing comes in between. A run is followed by fetching its detail again and again until it
has ended or the session is closed; a fetch that fails is repeated after the usual pause.
-/

import FlowGraph.Session.Save

namespace FlowGraph.Session

/-- The states in which a run has ended. -/
def finalStatuses : List String := ["succeeded", "completed", "failed", "cancelled"]

/-- The detail is that of a run that has ended. -/
def hasEnded (fields : Fields Value) : Bool :=
  finalStatuses.contains (Text.lower ((part fields "run").field "status").filledText)

/-- Fetches the detail of a run that is followed, unless the session was closed. -/
def fetch (session : Session) (runId : Value) : Turn :=
  if session.isClosed then session.finish (.ok (.followed none))
  else { session, next := .ask (.readRun runId) (.fetch runId) }

/-- Follows a run, or the active one if none is named. -/
def follow (session : Session) (runId : Value) : Turn :=
  let id := runId.orElse session.activeRunId
  if id.isTruthy then session.fetch id else session.finish (.error .noRun)

/-- Pauses before a run is fetched again. The interval has to be a number. -/
def pause (session : Session) (runId : Value) : Next :=
  match session.pollInterval with
  | .bool _ | .int _ | .float _ => .sleep runId
  | _ => .done (.error .unsuitable)

/-- Receives the detail of a run that is followed, and reports it. -/
def receiveDetail (session : Session) (runId detail : Value) : Turn :=
  let next :=
    match answerFields detail with
    | .error failure => .done (.error failure)
    | .ok fields =>
      if hasEnded fields then .done (.ok (.followed (some detail))) else session.pause runId
  { session, update := some detail, next }

/-- Completes a task. -/
def completeTask (session : Session) (taskId decision note : Value) : Turn :=
  { session, next := .ask (.completeTask taskId decision note) .task }

/-- The session after it was closed. -/
def close (session : Session) : Session := { session with isClosed := true }

/-- Receives the answer that an operation waits for. -/
def receive (session : Session) (response : Value) : Pending → Turn
  | .definition token templateId run => session.receiveDefinition token templateId run response
  | .runDetail runId => session.receiveRun runId response
  | .save name isNew runKey => session.receiveSave name isNew runKey response
  | .runStart => session.receiveStart response
  | .fetch runId => session.receiveDetail runId response
  | .task => session.finish (.ok (.completed response))

/-- Goes on without an answer: a fetch of a run that is followed is repeated if the backend
refused it, every other operation ends with the failure. -/
def fail (session : Session) (failure : Failure) : Pending → Turn
  | .fetch runId =>
    match failure with
    | .backend _ _ => { session, next := session.pause runId }
    | _ => session.finish (.error failure)
  | _ => session.finish (.error failure)

/-- Goes on with what came back from a call. -/
def resume (session : Session) (pending : Pending) : Reply → Turn
  | .ok response => session.receive response pending
  | .error failure => session.fail failure pending

end FlowGraph.Session

namespace FlowGraph.Turn

/-- A backend: what it answers to a call, and how the call changes it and the session. -/
abbrev Backend (β : Type) := β → Session → Call → β × Session × Reply

/-- An operation that was run on its own: the backend after it, its last turn, and the run details
that it reported. -/
structure Ran (β : Type) where
  backend : β
  turn : Turn
  updates : List Value := []

/-- Puts what one turn reported in front. -/
def Ran.report {β : Type} (update : Option Value) (ran : Ran β) : Ran β :=
  { ran with updates := update.toList ++ ran.updates }

/-- Runs an operation for at most `fuel` calls and pauses, with nothing in between. -/
def run {β : Type} (answer : Backend β) : Nat → β → Turn → Ran β
  | 0, backend, turn => Ran.report turn.update { backend, turn }
  | fuel + 1, backend, turn =>
    Ran.report turn.update <|
      match turn.next with
      | .done _ => { backend, turn }
      | .sleep runId => run answer fuel backend (turn.session.fetch runId)
      | .ask call pending =>
        let (backend, session, reply) := answer backend turn.session call
        run answer fuel backend (session.resume pending reply)

end FlowGraph.Turn
