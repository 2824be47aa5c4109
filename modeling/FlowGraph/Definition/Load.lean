/-
# Loading a definition

Turns a written definition back into a document. The type of each step is found through its
backend key, the catalog fills in what the definition leaves out, and sample inputs of triggers are
cleared. Loading is tolerant: every part may be missing or of any shape, and only a place on the
canvas that is no number is refused.
-/

import FlowGraph.Binding.Reading
import FlowGraph.Definition.Basic
import FlowGraph.Document.Reading
import FlowGraph.Document.Structure
import FlowGraph.Edit.Naming
import FlowGraph.Layout

namespace FlowGraph.Load

open FlowGraph.Text

/-- The first text that is not empty, or the last one. -/
def firstText : List String → String
  | [] => ""
  | [text] => text
  | text :: rest => if text = "" then firstText rest else text

/-- What a written node takes from its index, unless it tells otherwise: the number in its id, and
its place. Each is refused only where it is needed. -/
structure Fallback where
  number : Except Failure String
  place : Except Failure (Schema.Checked (Fields Float))

/-- The height of the row in which nodes without a place stand. -/
def rowHeight : Float := 200

/-- Nodes without a place stand in a row, one by one. -/
def Fallback.ofIndex (index : Nat) : Fallback :=
  { number := .ok (Naming.numeral (index + 1))
    place := .ok (.ok [("x", Schema.floatOfInt (100 + (index : Int) * 380)), ("y", rowHeight)]) }

/-- The same for an index that may be any value. -/
def Fallback.ofValue (index : Value) : Fallback :=
  let number : Except Failure Layout.Number := Layout.distance (some index) (.whole 0)
  let whole : Int → Except Failure Layout.Number := Layout.Coordinate.ofInt
  { number := (Layout.Coordinate.add number (whole 1)).map Layout.Number.text
    place :=
      (Layout.Coordinate.add (whole 100) (Layout.Coordinate.mul number (whole 380))).map fun x =>
        (x.checked.under "x").map fun x => [("x", x), ("y", rowHeight)] }

/-- Where a written node says it stands: the place in its metadata comes first. -/
def drawnPlace (raw : Value) : Fields Value :=
  let drawn := (((raw.field "metadata").field "ui").field "position").fields
  if drawn.isEmpty then (raw.field "position").fields else drawn

/-- The place of a written node: its own, or the one that is kept for it. -/
def position (raw : Value) (fallback : Fallback) :
    Except Failure (Schema.Checked (Fields Float)) :=
  let place := drawnPlace raw
  if place.isEmpty then fallback.place
  else
    let axis := fun name =>
      ((Schema.float ((Fields.get? place name).getD (.int 0))).map fun x => (name, x)).under name
    .ok ((fun x y => [x, y]) <$> axis "x" <*> axis "y")

/-- A number read generously from a free-form value. An integer must not be too large for a
double. -/
def looseFloat? : Value → Except Failure (Option Float)
  | .bool b => .ok (some (if b then 1 else 0))
  | .int n => if Decimal.fitsDouble n then .ok (some (Schema.floatOfInt n)) else .error .outOfRange
  | .float x => .ok (some x)
  | .text s => .ok (Decimal.readFloat? s)
  | _ => .ok none

/-- A version: the integer part of a positive finite number. -/
def version (value : Value) : Except Failure (Option Int) := do
  return (← looseFloat? value).bind fun x =>
    if x.isFinite && x > 0 then some (Schema.truncate x) else none

/-- The backend reference of a written node, under either of its names. -/
def rawRef (raw : Value) : Value :=
  if (raw.field "node_ref").fields.isEmpty then .object (raw.field "nodeRef").fields
  else raw.field "node_ref"

/-- The backend key of a written node. -/
def rawKey (raw : Value) : String :=
  firstText
    [((rawRef raw).field "key").plainText, (raw.field "node_type").plainText,
     (raw.field "type").plainText]

/-- The configuration of a loaded node. -/
def config (type : NodeType) (defaults : NodeData) (raw : Value) : Fields Value :=
  let held := ((raw.field "config").asObject?).getD defaults.config
  let cleared := if type.sourceOnly then Fields.set held "input" (.object []) else held
  match (raw.field "assignee").asObject? with
  | some assignee =>
    if type.name = "human" then Fields.set cleared "assignee" (.object assignee) else cleared
  | none => cleared

/-- The backend reference of a loaded node. A key that the catalog does not know is kept. -/
def nodeRef (type : NodeType) (mode : String) (defaults : NodeData) (raw : Value) :
    Except Failure (Option NodeRef) := do
  let key := rawKey raw
  let catalogKey := (type.nodeKeyFor (some mode)).getD ""
  let ownKey :=
    if key ≠ "" ∧ lower key ≠ lower catalogKey ∧ type.name = Registry.fallbackType then key
    else catalogKey
  let refKey := firstText [((rawRef raw).field "key").plainText, ownKey]
  if !type.builderOnly && refKey ≠ "" then
    return some { key := refKey, version := ← version ((rawRef raw).field "version") }
  else return defaults.ref

/-- The value is the boolean false. -/
def isFalse : Value → Bool
  | .bool false => true
  | _ => false

/-- The id of a written node: its own, or its type with a number. -/
def nodeId (raw : Value) (type : String) (fallback : Fallback) : Except Failure String :=
  match (raw.field "id").plainText with
  | "" => fallback.number.map fun number => type ++ "_" ++ number
  | id => .ok id

/-- Loads one written node. -/
def nodeOf (fields : Fields Value) (fallback : Fallback) : Except Failure Node := do
  let raw := Value.object fields
  let (typeName, mode, implemented) := Catalog.standard.resolveKey (rawKey raw)
  let type ← Catalog.standard.require typeName
  let defaults := type.freshData (some mode)
  let id ← nodeId raw typeName fallback
  let ref ← nodeRef type mode defaults raw
  let data : NodeData :=
    { defaults with
      config := config type defaults raw
      bindings := Binding.parseAll (raw.field "input_bindings")
      ref
      enabled := !isFalse (raw.field "enabled")
      implemented
      join := firstText [(raw.field "join").plainText, defaults.join]
      onError := firstText [(raw.field "on_error").plainText, defaults.onError] }
  match ← position raw fallback with
  | .bad faults =>
    .error (.invalid (faults.map fun fault => { fault with path := "position" :: fault.path }))
  | .ok place =>
    return {
      id
      type := typeName
      label := firstText
        [(raw.field "title").plainText, (raw.field "label").plainText,
         (raw.field "name").plainText, id]
      position := some place
      data }

/-- Loads one written node, which has to be a mapping. -/
def node (raw index : Value) : Except Failure Node :=
  match raw with
  | .object fields => nodeOf fields (.ofValue index)
  | _ => .error .notMapping

/-- Loads written nodes, the first of which has the given index. What is no mapping counts as an
empty one. -/
def nodes (index : Nat) : List Value → Except Failure (List Node)
  | [] => .ok []
  | raw :: rest => do
    let first ← nodeOf raw.fields (.ofIndex index)
    return first :: (← nodes (index + 1) rest)

/-- The handle of a written edge: the key of its route condition. -/
def handle (condition : Value) : Option String :=
  if lower (condition.field "type").plainText = "route" then
    let key := (condition.field "equals").plainText
    if lower key = "true" ∨ lower key = "false" then some (lower key)
    else if key = "" then none
    else some key
  else none

/-- Loads one written edge, unless an end is missing or both are the same. -/
def edge? (raw : Value) (index : Nat) : Option Edge :=
  let source := ((raw.field "from").orElse (raw.field "source")).plainText
  let target := ((raw.field "to").orElse (raw.field "target")).plainText
  if source = "" ∨ target = "" ∨ source = target then none
  else
    some
      { id := firstText [(raw.field "id").plainText, "edge_" ++ Naming.numeral (index + 1)]
        source, target
        handle := handle (raw.field "when") }

/-- Loads written edges, the first of which has the given index. -/
def edgesFrom (index : Nat) : List Value → List Edge
  | [] => []
  | raw :: rest => (edge? raw index).toList ++ edgesFrom (index + 1) rest

/-- Loads the edges of a definition; anything but a list holds none. -/
def edges (raw : Value) : List Edge := edgesFrom 0 (raw.asList?.getD [])

/-- The edges that the nodes can hold: both ends exist, the target admits incoming edges and the
source outgoing ones. -/
def connectable (nodes : List Node) (edges : List Edge) : List Edge :=
  let table := Fields.ofPairs (nodes.map fun node => (node.id, node))
  edges.filter fun edge =>
    match Fields.get? table edge.source, Fields.get? table edge.target with
    | some source, some target => !target.isSourceOnly && !source.isTerminalOnly
    | _, _ => false

/-- An integer read generously from a free-form value. Infinity is out of range. -/
def looseInt? : Value → Except Failure (Option Int)
  | .bool b => .ok (some (if b then 1 else 0))
  | .int n => .ok (some n)
  | .float x =>
    if x.isFinite then .ok (some (Schema.truncate x))
    else if x.isNaN then .ok none
    else .error .outOfRange
  | .text s => .ok (Decimal.readInt? s)
  | _ => .ok none

/-- The definition was written in the form that carries no layout of its own. -/
def needsLayout (definition : Value) : Except Failure Bool := do
  let version ← looseInt? ((definition.field "schema_version").orElse (.int 1))
  return version = some Definition.schemaVersion

/-- The document of a written definition. A definition without nodes gives a blank document. -/
def document (definition : Value) (name : String) : Except Failure Document := do
  let loaded ← nodes 0 ((definition.field "nodes").asList?.getD [])
  let loadedEdges := edges (definition.field "edges")
  match loaded with
  | [] =>
    let blank := Document.blank name
    return blank.withEdges (connectable blank.nodes loadedEdges)
  | nodes =>
    let kept := connectable nodes loadedEdges
    let placed :=
      if ← needsLayout definition then Layout.place Layout.standardSpacing nodes kept else nodes
    return { name, nodes := placed, edges := kept }

/-- The document of a written definition, under a name that has to be a text. -/
def documentNamed (definition name : Value) : Except Failure Document :=
  match name with
  | .text name => document definition name
  | _ => do
    let _ ← document definition Document.defaultName
    .error (.invalid [⟨["name"], .notText⟩])

end FlowGraph.Load
