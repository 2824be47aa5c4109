/-
# The registry of node types

The look-up tables of a catalog: node types by name, and the pair of type and mode that each
backend key stands for. Backend keys are compared without regard to case. A key that the registry
does not know stands for the generic function step.
-/

import FlowGraph.Catalog.Declaration
import FlowGraph.Failure
import FlowGraph.Text.Case

namespace FlowGraph

/-- Registered node types in order of registration, the index of backend keys, and the readiness
rules that replace those of a mode for some backend keys. -/
structure Registry where
  types : Fields NodeType := []
  keys : Fields (String × String) := []
  specialized : Fields (List Requirement) := []

namespace Registry

/-- The type that unknown backend keys stand for. -/
def fallbackType : String := "utilities"

/-- The mode that unknown backend keys stand for. -/
def fallbackMode : String := "function"

/-- The index entries of a type: each mode's key, in lower case. -/
def keyEntries (type : NodeType) : List (String × (String × String)) :=
  type.modes.filterMap fun mode =>
    match mode.nodeKey with
    | some key => if key = "" then none else some (Text.lower key, (type.name, mode.value))
    | none => none

/-- The registry with a valid type added. A type of the same name is replaced in its place. -/
def add (registry : Registry) (type : NodeType) : Registry :=
  { registry with
    types := Fields.set registry.types type.name type
    keys := Fields.setAll registry.keys (keyEntries type) }

/-- Registers a type, unless its declaration has problems. `owner` names the declaration. -/
def register (registry : Registry) (owner : String) (type : NodeType) : Except Failure Registry :=
  match type.problems with
  | [] => .ok (registry.add type)
  | problems => .error (.badDeclaration owner (problems.map Problem.message))

/-- Replaces the readiness rules of a backend key. -/
def specialize (registry : Registry) (key : String) (requirements : List Requirement) : Registry :=
  { registry with specialized := Fields.set registry.specialized (Text.lower key) requirements }

/-- The readiness rules that replace those of the mode for this backend key. -/
def specialized? (registry : Registry) (key : String) : Option (List Requirement) :=
  if key = "" then none else Fields.get? registry.specialized (Text.lower key)

/-- The node type of this name. -/
def type? (registry : Registry) (name : String) : Option NodeType := Fields.get? registry.types name

/-- The node type of this name, which has to exist. -/
def require (registry : Registry) (name : String) : Except Failure NodeType :=
  match registry.type? name with
  | some type => .ok type
  | none => .error (.unknownType name)

/-- All node types in order of registration. -/
def all (registry : Registry) : List NodeType := registry.types.map Prod.snd

/-- The node types of each group of the palette. -/
def byGroup (registry : Registry) : Fields (List NodeType) :=
  paletteGroups.map fun group => (group, registry.all.filter fun type => type.group = group)

/-- The mode of exactly this type and name. -/
def modeFor (registry : Registry) (type : String) (mode : Option String) : Except Failure Mode := do
  match (← registry.require type).findMode? mode with
  | some record => .ok record
  | none => .error (.unknownMode type mode)

/-- The mode of this name, or the default mode of the type; an unknown type has none. -/
def lookupMode? (registry : Registry) (type : String) (mode : Option String) : Option Mode :=
  (registry.type? type).map fun found => found.modeOrDefault mode

/-- The name of the default mode of a type. -/
def defaultMode (registry : Registry) (type : String) : Except Failure String := do
  return (← registry.require type).defaultMode.value

/-- The backend key of a type and mode. -/
def nodeKeyFor (registry : Registry) (type : String) (mode : Option String) :
    Except Failure (Option String) := do
  return (← registry.require type).nodeKeyFor mode

/-- The type and mode that a backend key stands for, and whether the backend implements them. -/
def resolveKey (registry : Registry) (key : String) : String × String × Bool :=
  match Fields.get? registry.keys (Text.lower (Text.trim key)) with
  | some (type, mode) =>
    (type, mode, (registry.lookupMode? type (some mode)).any Mode.implemented)
  | none =>
    (fallbackType, fallbackMode,
      (registry.lookupMode? fallbackType (some fallbackMode)).any Mode.implemented)

/-- The data of a new node. -/
def freshData (registry : Registry) (type : String) (mode : Option String) :
    Except Failure NodeData := do
  return (← registry.require type).freshData mode

end Registry

end FlowGraph
