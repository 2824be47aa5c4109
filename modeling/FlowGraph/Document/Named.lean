/-
# Nodes named by values

A document may be asked for a node by any value. Only texts name one.
-/

import FlowGraph.Connection.Guard
import FlowGraph.Document.Structure
import FlowGraph.Value.Key

namespace FlowGraph

namespace Document

/-- The node that a value names. -/
def named? (document : Document) (id : Value) : Option Node := id.asText?.bind document.node?

/-- The node that a value names, which has to exist. -/
def requireNamed (document : Document) (id : Value) : Except Failure Node :=
  match id with
  | .text id => document.requireNode id
  | id => .error (.strangeNode id.nested)

end Document

namespace Connection

/-- The verdict on an edge between what two values name. -/
def validateNamed (document : Document) : Value → Value → Verdict
  | .text source, .text target => validate document source target
  | _, _ => .refuse unknownMessage []

/-- An edge between what two values name would close a loop. -/
def closesLoop (edges : List Edge) : Value → Value → Except Failure Bool
  | .text source, .text target => .ok (createsCycle edges source target)
  | source, target =>
    if source.same target then .ok true else target.keyText.map fun _ => false

end Connection

end FlowGraph
