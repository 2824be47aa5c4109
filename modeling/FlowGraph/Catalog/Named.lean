/-
# Node types named by values

A catalog may be asked for a node type or a mode by any value. Only texts name one.
-/

import FlowGraph.Catalog.Registry
import FlowGraph.Value.Key

namespace FlowGraph.Registry

/-- The node type that a value names. -/
def named? (registry : Registry) (name : Value) : Except Failure (Option NodeType) := do
  let key ← name.keyText
  return name.asText?.bind fun _ => registry.type? key

/-- The node type that a value names, which has to exist. -/
def requireNamed (registry : Registry) (name : Value) : Except Failure NodeType := do
  match ← registry.named? name, name with
  | some type, _ => return type
  | none, .text name => .error (.unknownType name)
  | none, name => .error (.strangeType name.nested)

/-- The mode of exactly the type and the name that values tell. -/
def modeNamed (registry : Registry) (name mode : Value) : Except Failure Mode := do
  let type ← registry.requireNamed name
  match type.findMode? mode.asText?, mode with
  | some record, _ => return record
  | none, .text mode => .error (.unknownMode name.display (some mode))
  | none, .null => .error (.unknownMode name.display none)
  | none, mode => .error (.strangeMode name.display mode.nested)

end FlowGraph.Registry
