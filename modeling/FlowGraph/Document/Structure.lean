/-
# Structural faults

The structural rules that every finished document keeps: node ids are distinct, both ends of an
edge exist, and no edge enters a source-only or leaves a terminal-only node.
-/

import FlowGraph.Catalog.Standard

namespace FlowGraph

/-- A broken structural rule. -/
inductive StructureFault where
  | repeatedId (id : String)
  | unknownSource (id : String)
  | unknownTarget (id : String)
  | enteredSourceOnly (id : String)
  | leftTerminalOnly (id : String)
  deriving DecidableEq, Repr

/-- The wording of a broken rule. -/
def StructureFault.message : StructureFault → String
  | repeatedId id => "Duplicate node id: " ++ id
  | unknownSource id => "Edge references unknown source node: " ++ id
  | unknownTarget id => "Edge references unknown target node: " ++ id
  | enteredSourceOnly id => "Node " ++ id ++ " cannot have incoming connections."
  | leftTerminalOnly id => "Node " ++ id ++ " cannot have outgoing connections."

/-- The ids that repeat one of the ids in front of them. -/
def repeatedIds (seen : List String) : List String → List String
  | [] => []
  | id :: rest =>
    if seen.contains id then id :: repeatedIds seen rest
    else repeatedIds (id :: seen) rest

/-- The rules that an edge breaks in a document with this table of nodes. -/
def Edge.structureFaults (table : Fields Node) (edge : Edge) : List StructureFault :=
  match Fields.get? table edge.source, Fields.get? table edge.target with
  | none, _ => [.unknownSource edge.source]
  | some _, none => [.unknownTarget edge.target]
  | some source, some target =>
    (if target.isSourceOnly then [.enteredSourceOnly edge.target] else [])
      ++ (if source.isTerminalOnly then [.leftTerminalOnly edge.source] else [])

/-- The structural rules that a document breaks. -/
def Document.structureFaults (document : Document) : List StructureFault :=
  (repeatedIds [] document.nodeIds).map .repeatedId
    ++ document.edges.flatMap (Edge.structureFaults document.nodeTable)

/-- The first node with the id, which has to exist. -/
def Document.requireNode (document : Document) (id : String) : Except Failure Node :=
  match document.node? id with
  | some node => .ok node
  | none => .error (.nodeNotFound id)

/-- A document with a single default trigger. -/
def Document.blank (name : String) : Document :=
  { name
    nodes :=
      [{ id := "trigger_1"
         type := "trigger"
         label := Palette.trigger.label
         position := some [("x", 80), ("y", 170)]
         data := Palette.trigger.freshData none }] }

/-- The name of a document that has none. -/
def Document.defaultName : String := "Untitled Workflow"

end FlowGraph
