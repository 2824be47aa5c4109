/-
# Failures

Every cause for which an operation of the workflow engine is refused, and the wording of each in
one place.
-/

import FlowGraph.Connection.Verdict
import FlowGraph.Readiness.Issue
import FlowGraph.Schema
import FlowGraph.Text.Quoted

namespace FlowGraph

/-- Why an operation was refused. -/
inductive Failure where
  /-- The catalog has no such node type. -/
  | unknownType (type : String)
  /-- The node type has no such mode. -/
  | unknownMode (type : String) (mode : Option String)
  /-- A node type with these problems cannot be registered. -/
  | badDeclaration (owner : String) (problems : List String)
  /-- The document has no such node. -/
  | nodeNotFound (id : String)
  /-- A new node would repeat an id. -/
  | idInUse (id : String)
  /-- The connection guard refuses an edge. -/
  | rejected (verdict : Verdict)
  /-- The graph has to be free of cycles and is not. -/
  | cycle (nodeIds : List String)
  /-- No step of the graph can be executed. -/
  | nothingToCompile
  /-- The backend refused a request, or could not be reached. -/
  | backend (message : String) (status : Option Int)
  /-- A run was asked for while steps still have to be set up. -/
  | blocked (issues : List Issue)
  /-- There is no run to follow. -/
  | noRun
  /-- No template has this name. -/
  | unknownTemplate (name : String)
  /-- No settings group has this name. -/
  | unknownSettings (name : String)
  /-- A decision on a task is not one of the possible ones. -/
  | badDecision (decision : String)
  /-- A record has fields that do not fit. -/
  | invalid (faults : List Schema.Fault)
  /-- A free-form value is walked that holds no items, or a record gets a field it does not
  have. -/
  | unsuitable
  /-- A free-form value is asked for a field and is no mapping. -/
  | notMapping
  /-- A settings group without a name is asked for it. -/
  | unnamed
  /-- The address of a request cannot be read. -/
  | badAddress
  /-- The backend went away without an answer. -/
  | noReply
  /-- A node type is asked for by a value that is no text, shown here. -/
  | strangeType (shown : String)
  /-- A mode of a node type is asked for by a value that is no text, shown here. -/
  | strangeMode (type shown : String)
  /-- A node is asked for by a value that is no text, shown here. -/
  | strangeNode (shown : String)
  /-- The address of a request does not tell how to go there. -/
  | unknownScheme (address : String)
  /-- A token holds characters that cannot be sent. -/
  | badToken
  /-- A body holds a number that is not finite. -/
  | notFinite
  /-- A number is too large for the place where it is needed. -/
  | outOfRange
  /-- An integer has too many digits to be read, as many as are told, or to be written. -/
  | tooManyDigits (digits : Option Nat)
  deriving DecidableEq, Repr

namespace Failure

/-- The decisions that complete a task. -/
def decisions : List String := ["approved", "rejected"]

/-- Texts in ascending order without repeats. -/
def insertDistinct (text : String) : List String → List String
  | [] => [text]
  | other :: rest =>
    if other = text then other :: rest
    else if other < text then other :: insertDistinct text rest
    else text :: other :: rest

/-- The labels that block a run, each once, in ascending order. -/
def blockingLabels (issues : List Issue) : List String :=
  (issues.flatMap Issue.setupMissing).foldr insertDistinct []

/-- The wording of a failure; failures on free-form values have none. -/
def message? : Failure → Option String
  | unknownType type => some ("Unknown node type: " ++ Text.quoted type)
  | unknownMode type mode =>
    some ("Unknown mode " ++ (mode.map Text.quoted).getD "None" ++ " for node type "
      ++ Text.quoted type)
  | badDeclaration owner problems =>
    some ("Invalid node declaration " ++ owner ++ ": " ++ String.intercalate "; " problems)
  | nodeNotFound id => some ("Node not found: " ++ Text.quoted id)
  | strangeType shown => some ("Unknown node type: " ++ shown)
  | strangeMode type shown =>
    some ("Unknown mode " ++ shown ++ " for node type " ++ Text.quoted type)
  | strangeNode shown => some ("Node not found: " ++ shown)
  | idInUse id => some ("Node id already in use: " ++ id)
  | rejected verdict =>
    match verdict.message with
    | some message => some (if message = "" then "Connection rejected." else message)
    | none => some "Connection rejected."
  | cycle nodeIds =>
    some ("Workflow graph contains a cycle through: " ++ String.intercalate ", " nodeIds)
  | nothingToCompile => some "Add at least one executable step before saving."
  | backend message _ => some message
  | blocked issues =>
    some ("Finish step setup before running: " ++ String.intercalate ", " (blockingLabels issues))
  | noRun => some "No run to poll"
  | unknownTemplate name => some ("Unknown workflow template: " ++ name)
  | unknownSettings name => some ("Unknown config: " ++ name)
  | badDecision decision =>
    some ("decision must be one of (" ++ String.intercalate ", " (decisions.map Text.quoted)
      ++ "), got '" ++ decision ++ "'")
  | invalid faults => some (Schema.report faults)
  | unknownScheme address => some ("unknown url type: " ++ Text.quoted address)
  | badToken => some "ascii"
  | notFinite => some "Out of range float values are not JSON compliant"
  | tooManyDigits digits =>
    some ("Exceeds the limit (4300 digits) for integer string conversion"
      ++ (digits.map fun count =>
        ": value has " ++ String.ofList (Nat.toDigits 10 count) ++ " digits").getD ""
      ++ "; use sys.set_int_max_str_digits() to increase the limit")
  | unsuitable | notMapping | unnamed | badAddress | noReply | outOfRange => none

end Failure

end FlowGraph
