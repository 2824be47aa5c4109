/-
# Commands

Every edit of a document is a command. Applying one is a pure function to a new document, or to
nothing when the document stays as it is.
-/

import FlowGraph.Connection.Guard
import FlowGraph.Document.Reading
import FlowGraph.Edit.Naming
import FlowGraph.Mapping.Contract

namespace FlowGraph

/-- A new node: absent parts are taken from the catalog. -/
structure NewNode where
  type : String
  mode : Option String := none
  position : Option (Fields Float) := none
  label : Option String := none
  nodeId : Option String := none

/-- New values for the fields of a node; an absent one leaves its field as it is. -/
structure Patch where
  nodeId : String
  label : Option String := none
  mode : Option String := none
  config : Option (Fields Value) := none
  bindings : Option (Fields Value) := none
  enabled : Option Bool := none
  position : Option (Fields Float) := none

/-- An edit of a document. -/
inductive Command where
  | addNode (new : NewNode)
  | duplicateNode (nodeId : String)
  | patchNode (patch : Patch)
  | deleteNode (nodeId : String)
  | connect (source target : String) (handle : Option String)
  | disconnect (edgeId : String)
  | autoMap (nodeId : Option String) (force : Bool)
  | rename (name : String)
  | replace (document : Document)

namespace Edit

open Schema

/-- How far a duplicate stands from its model. -/
def duplicateOffset : Float := 40

/-- What a text holds, or nothing if it is empty. -/
def nonEmpty? (text : Option String) : Option String :=
  text.bind fun held => if held = "" then none else some held

/-- The label of a new node: the one that is given, or else the next of its type's series. -/
def newLabel (document : Document) (type : NodeType) (given : Option String) :
    Except Failure String :=
  match nonEmpty? given with
  | some label => .ok label
  | none => Naming.nextLabel type.label (document.nodes.map Node.label)

/-- The node that a command adds, under its label. -/
def newNode (document : Document) (type : NodeType) (new : NewNode) (label : String) : Node :=
  { id := (nonEmpty? new.nodeId).getD (Naming.nextNodeId type.name document.nodeIds)
    type := type.name
    label
    position :=
      match new.position with
      | some (place :: places) => some (place :: places)
      | _ => some [("x", 0), ("y", 0)]
    data := type.freshData (some (type.modeOrDefault new.mode).value) }

/-- Adds a node. -/
def addNode (document : Document) (new : NewNode) : Except Failure Document := do
  let type ← Catalog.standard.require new.type
  let label ← newLabel document type new.label
  let node := newNode document type new label
  if (document.node? node.id).isSome then .error (.idInUse node.id)
  else return document.withNodes (document.nodes ++ [node])

/-- Adds a copy of a node at some distance. -/
def duplicateNode (document : Document) (nodeId : String) : Except Failure Document := do
  let model ← document.requireNode nodeId
  let base := (model.kind?.map NodeType.label).getD model.label
  let label ← Naming.nextLabel base (document.nodes.map Node.label)
  let shifted := fun axis => (Fields.get? model.coordinates axis).getD 0 + duplicateOffset
  let copy : Node :=
    { model with
      id := Naming.nextNodeId model.type document.nodeIds
      label
      position := some [("x", shifted "x"), ("y", shifted "y")] }
  return document.withNodes (document.nodes ++ [copy])

/-- The nodes at a lower stage than the given one. -/
def eligibleSources (document : Document) (nodeId : String) : List String :=
  let stages := document.stages
  document.nodeIds.filter fun id => Stage.canFeed stages id nodeId

/-- The data of a node after its mode was changed to one that its type has. -/
def changeMode (node : Node) (mode : String) : Except Failure NodeData := do
  let type ← Catalog.standard.require node.type
  let record ← Catalog.standard.modeFor node.type (some mode)
  let fresh := type.freshData (some record.value)
  return { node.data with
    mode := record.value, ref := fresh.ref, implemented := fresh.implemented
    config := fresh.config }

/-- The bindings that survive a change of mode: those that the new mode expects, with references
to steps at a lower stage only. -/
def keptBindings (document : Document) (node : Node) : Bindings :=
  let expected := (Mapping.Contract.ofNode (some node)).expectedTargets
  (Mapping.reconcile {} (eligibleSources document node.id) node.bindings).filter fun pair =>
    expected.contains pair.1

/-- The mode that a patch changes a node to; none if it leaves the mode as it is. -/
def newMode? (patch : Patch) (node : Node) : Option String :=
  patch.mode.bind fun mode => if mode = node.mode then none else some mode

/-- The data that the fields of a patch go over: that of the new mode, if there is one. -/
def baseData (node : Node) (newMode : Option String) : Except Failure NodeData :=
  match newMode with
  | some mode => changeMode node mode
  | none => .ok node.data

/-- The node with the fields of a patch over this data. -/
def patched (patch : Patch) (node : Node) (data : NodeData) : Node :=
  let placed : Node :=
    { node with
      label := patch.label.getD node.label
      position := some (patch.position.getD node.coordinates) }
  placed.withData
    { data with
      config := patch.config.getD data.config
      bindings := (patch.bindings.map Binding.parsePairs).getD data.bindings
      enabled := patch.enabled.getD data.enabled }

/-- A patched node that changed its mode keeps the bindings that it was given, and otherwise those
that still fit. -/
def fitted (document : Document) (patch : Patch) (updated : Node) : Node :=
  if patch.bindings.isSome then updated
  else updated.withBindings (keptBindings document updated)

/-- Changes fields of a node. A change of mode starts from the mode's own configuration, keeps the
bindings that still fit, and maps the inputs of a node with incoming edges once more. -/
def patchNode (document : Document) (patch : Patch) : Except Failure Document := do
  let node ← document.requireNode patch.nodeId
  let newMode := newMode? patch node
  let data ← baseData node newMode
  let updated := patched patch node data
  if newMode.isNone then return document.replaceNode updated
  else
    let result := document.replaceNode (fitted document patch updated)
    if (document.edgesTo node.id).isEmpty then return result
    else return (← Mapping.autoMap result (some node.id) false).getD result

/-- Removes a node and every edge that touches it. -/
def deleteNode (document : Document) (nodeId : String) : Except Failure Document := do
  let _ ← document.requireNode nodeId
  return { document with
    nodes := document.nodes.filter fun node => node.id ≠ nodeId
    edges := document.edges.filter fun edge => edge.source ≠ nodeId && edge.target ≠ nodeId }

/-- Adds an edge that the guard admits, and maps the inputs of its target. A repeated edge changes
nothing. -/
def connect (document : Document) (source target : String) (handle : Option String) :
    Except Failure (Option Document) := do
  let verdict := Connection.validate document source target
  if !verdict.allow then .error (.rejected verdict)
  else if document.edges.any fun edge =>
      edge.source = source && edge.target = target && edge.handle = handle then
    return none
  else
    let edge : Edge :=
      { id := Naming.nextEdgeId source target handle (document.edges.map Edge.id)
        source, target, handle }
    let connected := document.withEdges (document.edges ++ [edge])
    return some ((← Mapping.mapFromSource connected target source).getD connected)

/-- Removes the edges of this id; an unknown one changes nothing. -/
def disconnect (document : Document) (edgeId : String) : Option Document :=
  let remaining := document.edges.filter fun edge => edge.id ≠ edgeId
  if remaining.length = document.edges.length then none else some (document.withEdges remaining)

end Edit

/-- Applies a command: the new document, or nothing when the document stays as it is. -/
def Command.apply (document : Document) : Command → Except Failure (Option Document)
  | addNode new => some <$> Edit.addNode document new
  | duplicateNode nodeId => some <$> Edit.duplicateNode document nodeId
  | patchNode patch => some <$> Edit.patchNode document patch
  | deleteNode nodeId => some <$> Edit.deleteNode document nodeId
  | connect source target handle => Edit.connect document source target handle
  | disconnect edgeId => .ok (Edit.disconnect document edgeId)
  | autoMap nodeId force => Mapping.autoMap document nodeId force
  | rename name => .ok (some { document with name })
  | replace other => .ok (some other)

/-- The document after a command, which is the same one when nothing changes. -/
def Command.run (document : Document) (command : Command) : Except Failure Document :=
  (command.apply document).map fun changed => changed.getD document

end FlowGraph
