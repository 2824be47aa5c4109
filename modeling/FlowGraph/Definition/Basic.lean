/-
# Execution definitions

What the execution backend runs: steps, the links between them, the steps that a run starts with,
and an execution policy. The written form leaves out whatever a step does not have.
-/

import FlowGraph.Document.Basic
import FlowGraph.Schema
import FlowGraph.Value.Walk

namespace FlowGraph

/-- When a link is followed. -/
inductive Condition where
  | always
  | route (key : String)
  deriving DecidableEq, Repr

/-- A directed link between two steps. -/
structure Link where
  id : String
  source : String
  target : String
  condition : Condition
  deriving DecidableEq, Repr

/-- A step of a definition. -/
structure Step where
  id : String
  nodeKey : String
  title : String
  ref : Option NodeRef
  config : Fields Value
  bindings : Fields Value
  assignee : Option (Fields Value)
  enabled : Bool
  metadata : Fields Value

/-- How a definition is executed. -/
structure Policy where
  maxParallelism : Int := 2
  onNodeFailure : String := "fail_fast"
  deriving DecidableEq, Repr

/-- An execution definition, with the step that each executable node became. -/
structure Definition where
  steps : List Step
  links : List Link
  entry : List String
  policy : Policy
  idMap : Fields String

/-- A policy is read from a record. -/
def Policy.reader : Schema.Reader Policy := Schema.record fun fields =>
  Policy.mk <$> Schema.withDefault fields "max_parallelism" Schema.int 2
    <*> Schema.withDefault fields "on_node_failure" Schema.text "fail_fast"

/-- The written form of a condition. -/
def Condition.toWire : Condition → Value
  | always => .object [("type", .text "always")]
  | route key => .object [("type", .text "route"), ("equals", .text key)]

/-- The written form of a link. -/
def Link.toWire (link : Link) : Value :=
  .object
    [("id", .text link.id), ("from", .text link.source), ("to", .text link.target),
     ("when", link.condition.toWire)]

/-- A member of the written form, if there is something to write. -/
def member (name : String) (value : Option Value) : Fields Value :=
  match value with
  | some value => [(name, value)]
  | none => []

/-- A mapping to write, unless it is empty. -/
def filled? (fields : Fields Value) : Option Value :=
  if fields.isEmpty then none else some (.object fields)

/-- The written form of a backend reference. -/
def NodeRef.toWire (ref : NodeRef) : Value :=
  .object (("key", .text ref.key) :: member "version" (ref.version.map .int))

/-- The written form of a step. -/
def Step.toWire (step : Step) : Value :=
  .object
    ([("id", .text step.id), ("node_type", .text step.nodeKey), ("title", .text step.title)]
      ++ member "node_ref" (step.ref.map NodeRef.toWire)
      ++ member "config" (filled? step.config)
      ++ member "input_bindings" (filled? step.bindings)
      ++ member "assignee" (step.assignee.map .object)
      ++ member "enabled" (if step.enabled then none else some (.bool false))
      ++ [("metadata", .object step.metadata)])

/-- The written form of a policy. -/
def Policy.toWire (policy : Policy) : Value :=
  .object
    [("max_parallelism", .int policy.maxParallelism),
     ("on_node_failure", .text policy.onNodeFailure)]

/-- The version of the written form. -/
def Definition.schemaVersion : Int := 2

/-- The kind of the written form. -/
def Definition.kind : String := "custom.workflow"

/-- The written form of a definition. -/
def Definition.toWire (definition : Definition) : Value :=
  .object
    [("schema_version", .int Definition.schemaVersion),
     ("type", .text Definition.kind),
     ("nodes", .list (definition.steps.map Step.toWire)),
     ("edges", .list (definition.links.map Link.toWire)),
     ("entry_nodes", .list (definition.entry.map .text)),
     ("execution", definition.policy.toWire)]

/-- A written node carries a backend reference with a key. -/
def carriesRef (node : Value) : Bool := ((node.field "node_ref").field "key").trimmedText ≠ ""

/-- How the steps of a written definition name what they execute: all by reference, none, or
some. -/
def definitionMode (definition : Value) : Except Failure String := do
  let nodes ← ((definition.field "nodes").orElse (.list [])).walk
  let typed := nodes.any fun node => (node.field "node_type").trimmedText ≠ "" && !carriesRef node
  if nodes.any carriesRef then return if typed then "mixed" else "registry"
  else return "legacy"

end FlowGraph
