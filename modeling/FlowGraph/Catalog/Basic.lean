/-
# Node types and their modes

The palette of a workflow editor. Each node type owns an ordered list of operating modes, and
everything that the graph engine has to know about a step stands on the record of its mode: what
it produces and needs, where its outputs live, how its input slots are filled from earlier steps,
and what has to be in place before a run.
-/

import FlowGraph.Document.Basic

namespace FlowGraph

/-- A kind of data that a step can hand on. -/
inductive Capability where
  | docs
  | text
  | records
  | content
  | any
  | unknown (name : String)
  deriving DecidableEq, Repr

/-- A kind of data that a step expects from the step before it. -/
inductive Need where
  | docs
  | textOrDocs
  | records
  | content
  | unknown (name : String)
  deriving DecidableEq, Repr

namespace Capability

/-- The name under which a capability is declared. -/
def name : Capability → String
  | docs => "docs"
  | text => "text"
  | records => "records"
  | content => "content"
  | any => "any"
  | unknown name => name

/-- The capability of a name. -/
def ofName (name : String) : Capability :=
  ([docs, text, records, content, any].find? fun capability => capability.name = name).getD
    (unknown name)

/-- The capability is one of the five. -/
def isKnown : Capability → Bool
  | unknown _ => false
  | _ => true

end Capability

namespace Need

/-- The name under which a need is declared. -/
def name : Need → String
  | docs => "docs"
  | textOrDocs => "text_or_docs"
  | records => "records"
  | content => "content"
  | unknown name => name

/-- The need of a name. -/
def ofName (name : String) : Need :=
  ([docs, textOrDocs, records, content].find? fun need => need.name = name).getD (unknown name)

/-- The need is one of the four. -/
def isKnown : Need → Bool
  | unknown _ => false
  | _ => true

/-- How a need is called in a warning. -/
def caption : Need → String
  | docs => "documents"
  | records => "records"
  | content => "content"
  | textOrDocs => "text or documents"
  | unknown name => name

/-- The capabilities of which any one meets the need. -/
def metBy : Need → List Capability
  | docs => [.docs]
  | records => [.records]
  | content => [.content, .text, .records]
  | textOrDocs => [.text, .docs, .content]
  | unknown _ => []

/-- What is produced meets the need. -/
def isMet (need : Need) (produces : List Capability) : Bool :=
  produces.contains .any || need.metBy.any produces.contains

end Need

/-- How the edges that leave a step are told apart. -/
inductive Routing where
  | none
  | branch
  | route
  | unknown (name : String)
  deriving DecidableEq, Repr

namespace Routing

/-- The name under which a kind of routing is declared. -/
def name : Routing → String
  | none => "none"
  | branch => "branch"
  | route => "route"
  | unknown name => name

/-- The kind of routing of a name. -/
def ofName (name : String) : Routing :=
  ([none, branch, route].find? fun routing => routing.name = name).getD (unknown name)

/-- The kind of routing is one of the three. -/
def isKnown : Routing → Bool
  | unknown _ => false
  | _ => true

end Routing

/-- The name of the output that is the whole output of a step. -/
def wholeOutput : String := "*"

/-- Where each semantic output lives in a step's output unless its mode tells otherwise. -/
def defaultOutputPaths : Fields String :=
  [("doc_ids", "doc_ids"), ("text", "text"), ("content", ""), ("records", "records"),
   (wholeOutput, "")]

/-- How one input slot is filled. The binding keys and the config keys are those that count as
filled already; the source output is read from an earlier step, and the fallback is the reference
that is used when no step qualifies. -/
structure BindingRule where
  targetKey : String
  bindingKeys : List String := [targetKey]
  configKeys : List String := bindingKeys
  sourceOutput : Option String := none
  runInputFallback : String := "$.input." ++ targetKey
  deriving DecidableEq, Repr

/-- A rule with what its declaration leaves open filled in: the slot itself as binding key, the
binding keys as config keys, and the run input of the slot's name as fallback. -/
def BindingRule.declare (targetKey : String) (bindingKeys : List String)
    (configKeys : Option (List String)) (sourceOutput runInputFallback : Option String) :
    BindingRule :=
  let bindingKeys := if bindingKeys.isEmpty then [targetKey] else bindingKeys
  { targetKey, bindingKeys, sourceOutput
    configKeys := configKeys.getD bindingKeys
    runInputFallback := runInputFallback.getD ("$.input." ++ targetKey) }

/-- A run input that can make up for something missing. -/
structure RuntimeInput where
  inputKey : String
  label : String
  kind : String := "text"
  deriving DecidableEq, Repr

/-- A test that is more than "one of these keys holds something". -/
inductive Check where
  | conditionSource
  | routes
  | delayTiming
  | mergeSources
  | assignee
  | checklistItems
  | unknown (name : String)
  deriving DecidableEq, Repr

namespace Check

/-- The name under which a test is declared. -/
def name : Check → String
  | conditionSource => "condition_source"
  | routes => "routes"
  | delayTiming => "delay_timing"
  | mergeSources => "merge_sources"
  | assignee => "assignee"
  | checklistItems => "checklist_items"
  | unknown name => name

/-- The test of a name. -/
def ofName (name : String) : Check :=
  ([conditionSource, routes, delayTiming, mergeSources, assignee, checklistItems].find? fun check =>
    check.name = name).getD (unknown name)

end Check

/-- What has to be in place before a run: one of the keys holds something, or an earlier step
feeds the node where that is enough, or the named test passes. A setup requirement blocks a run;
any other can be made up for by a run input. -/
structure Requirement where
  label : String
  bindingKeys : List String := []
  configKeys : List String := bindingKeys
  satisfiedByIncoming : Bool := false
  setup : Bool := false
  check : Option Check := none
  runtimeInput : Option RuntimeInput := none
  deriving DecidableEq, Repr

/-- One operating mode of a node type. -/
structure Mode where
  value : String
  label : String
  nodeKey : Option String := none
  implemented : Bool := true
  description : String := ""
  routing : Option Routing := none
  defaultConfig : Fields Value := []
  produces : List Capability := [.any]
  needs : List Need := []
  outputPaths : Fields String := []
  bindingRules : List BindingRule := []
  inputTargets : List String := []
  requirements : List Requirement := []
  suggestedNext : Option (List String) := none
  deriving Inhabited

namespace Mode

/-- The path of a semantic output inside a step's output. -/
def outputPathFor (mode : Mode) (output : String) : String :=
  ((Fields.get? mode.outputPaths output).orElse fun _ =>
    Fields.get? defaultOutputPaths output).getD ""

/-- The input slots that the mode accepts: those it fills, then those it declares. -/
def expectedTargets (mode : Mode) : List String :=
  Document.distinct
    (((mode.bindingRules.map BindingRule.targetKey ++ mode.inputTargets).map Text.trim).filter
      fun slot => slot ≠ "")

end Mode

/-- What to connect next unless the type tells otherwise. -/
def defaultSuggestions : List String :=
  ["Checks -> Validate", "Human -> Review", "Output -> Export CSV"]

/-- A node type of the palette. Builder-only types are aids on the canvas and never executed; a
source-only type admits no incoming edge, a terminal-only type no outgoing one; annotations take
no part in the order of steps. -/
structure NodeType where
  name : String := ""
  label : String := ""
  description : String := ""
  group : String := "core"
  icon : String := ""
  color : String := "#64748b"
  builderOnly : Bool := false
  sourceOnly : Bool := false
  terminalOnly : Bool := false
  annotationOnly : Bool := false
  emitsHandles : Bool := false
  routing : Routing := .none
  modes : List Mode := []
  suggestedNext : List String := defaultSuggestions
  deriving Inhabited

namespace NodeType

/-- The mode of a new node: the first one. -/
def defaultMode (type : NodeType) : Mode := type.modes.headD default

/-- The mode of exactly this name. -/
def findMode? (type : NodeType) (mode : Option String) : Option Mode :=
  type.modes.find? fun record => some record.value = mode

/-- The mode of this name, or the default mode. -/
def modeOrDefault (type : NodeType) (mode : Option String) : Mode :=
  (type.findMode? mode).getD type.defaultMode

/-- The backend key of a mode. -/
def nodeKeyFor (type : NodeType) (mode : Option String) : Option String :=
  (type.modeOrDefault mode).nodeKey

/-- What to connect after a step in this mode. -/
def suggestionsFor (type : NodeType) (mode : Option String) : List String :=
  ((type.findMode? mode).bind Mode.suggestedNext).getD type.suggestedNext

/-- The kind of routing in this mode; a mode without one of its own inherits its type's. -/
def routingFor (type : NodeType) (mode : Option String) : Routing :=
  match (type.findMode? mode).bind Mode.routing with
  | some routing => if routing.name = "" then type.routing else routing
  | none => type.routing

/-- The data of a new node of this type. -/
def freshData (type : NodeType) (mode : Option String) : NodeData :=
  let record := type.modeOrDefault mode
  if type.builderOnly then { mode := record.value, config := record.defaultConfig }
  else
    { mode := record.value
      ref := (record.nodeKey.bind fun key => if key = "" then none else some key).map
        fun key => { key }
      config := record.defaultConfig
      implemented := record.implemented
      metadata := [("ui", .object [])] }

end NodeType

end FlowGraph
