/-
# Compiling a graph

Turns the graph of a document into an execution definition. Step ids are made to fit a narrow
grammar and to be distinct; nodes that are never executed are dropped with the edges that touch
them; handles of routing steps become conditions; and a graph of several steps without a single
edge becomes a chain.
-/

import FlowGraph.Binding.Reading
import FlowGraph.Catalog.Standard
import FlowGraph.Definition.Basic
import FlowGraph.Edit.Naming

namespace FlowGraph.Compile

open FlowGraph.Text

/-- A character that a step id may contain. -/
def isStepChar (c : Char) : Bool := c.isAlphanum || c = '_' || c = '-'

/-- Merges each run of underscores into one. -/
def squeeze : List Char → List Char
  | '_' :: '_' :: cs => squeeze ('_' :: cs)
  | c :: cs => c :: squeeze cs
  | [] => []

/-- The step id for a text: other characters become underscores, runs of which are merged, and an
id that does not start with a letter gets one in front. Blank texts have no step id. -/
def sanitize (s : String) : String :=
  match trimChars s.toList with
  | [] => ""
  | cs =>
    let id := squeeze (cs.map fun c => if isStepChar c then c else '_')
    String.ofList
      (if (id.head?.map Char.isAlpha).getD false then id else ['s', 't', 'e', 'p', '_'] ++ id)

/-- The first of two texts that is not empty. -/
def orText (first second : String) : String := if first = "" then second else first

/-- The backend key that a node compiles to; empty for a node that is never executed. -/
def nodeKey (node : Node) : String :=
  if node.isBuilderOnly then ""
  else
    orText (trim node.refKey)
      (match node.kind? with
        | some kind => trim ((kind.nodeKeyFor (some node.mode)).getD "")
        | none => "")

/-- The backend keys of triggers, whose sample input is not saved. -/
def triggerKeys : List String := ["manual.trigger", "chat.trigger"]

/-- A backend reference as it is saved: with its version if that is positive. -/
def savedRef (ref : NodeRef) : Option NodeRef :=
  let key := trim ref.key
  if key = "" then none
  else
    some
      { key
        version := ref.version.bind fun version => if 0 < version then some version else none }

/-- The node is executed by a reference whose version is too large for a double. -/
def hasHugeVersion (node : Node) : Bool :=
  nodeKey node ≠ "" &&
    match node.data.ref with
    | some ref => trim ref.key ≠ "" && (ref.version.map fun n => !Decimal.fitsDouble n).getD false
    | none => false

/-- The configuration as it is saved. -/
def savedConfig (key : String) (config : Fields Value) : Fields Value :=
  if triggerKeys.contains (lower key) then Fields.set config "input" (.object []) else config

/-- The metadata as it is saved, with the place of the node. -/
def savedMetadata (node : Node) : Fields Value :=
  let metadata := node.data.metadata
  let ui := ((Fields.get? metadata "ui").getD .null).fields
  Fields.set metadata "ui" (.object (Fields.set ui "position" node.positionValue))

/-- The step that a node becomes. -/
def step (node : Node) (stepId key : String) : Step :=
  { id := stepId
    nodeKey := key
    title := orText (trim (orText node.label stepId)) stepId
    ref := node.data.ref.bind savedRef
    config := savedConfig key node.config
    bindings := Binding.toWireAll node.bindings
    assignee := if node.type = "human" then (node.setting "assignee").asObject? else none
    enabled := node.data.enabled
    metadata := savedMetadata node }

/-- The id that stands for a node while its edges become links. -/
def canvasId (index : Nat) (node : Node) : String :=
  orText (trim node.id) ("step_" ++ Naming.numeral (index + 1))

/-- The step id that is preferred for a node. -/
def preferredId (index : Nat) (node : Node) : String :=
  orText (sanitize (canvasId index node))
    (orText (sanitize (orText node.label "step")) ("step_" ++ Naming.numeral (index + 1)))

/-- The steps so far, and the tables from the ids of nodes to steps and backend keys. -/
structure Progress where
  steps : List Step := []
  idMap : Fields String := []
  keys : Fields String := []

/-- The ids in use. -/
def Progress.used (progress : Progress) : List String := progress.steps.map Step.id

/-- Adds the step of one node, if it is executed. -/
def Progress.add (progress : Progress) (index : Nat) (node : Node) : Progress :=
  let key := nodeKey node
  if key = "" then progress
  else
    let stepId := Naming.unique (preferredId index node) progress.used
    { steps := progress.steps ++ [step node stepId key]
      idMap := Fields.set progress.idMap (canvasId index node) stepId
      keys := Fields.set progress.keys (canvasId index node) key }

/-- Adds the steps of nodes, the first of which has the given index. -/
def Progress.addAll (progress : Progress) (index : Nat) : List Node → Progress
  | [] => progress
  | node :: rest => (progress.add index node).addAll (index + 1) rest

/-- The kind of routing that a backend key stands for. -/
def routingOfKey (key : String) : Routing :=
  let (type, mode, _) := Catalog.standard.resolveKey key
  match Catalog.type? type with
  | some kind =>
    if kind.nodeKeyFor (some mode) = some (lower key) then kind.routingFor (some mode) else .none
  | none => .none

/-- The condition of an edge that leaves a step with this backend key by this handle. -/
def condition (sourceKey handle : String) : Condition :=
  match routingOfKey sourceKey with
  | .branch => if handle = "" then .always else .route (lower handle)
  | .route => if handle = "" then .always else .route handle
  | _ => .always

/-- The link that an edge becomes, if both its ends are executed and differ. `used` are the ids of
the links before it. -/
def link? (progress : Progress) (used : List String) (index : Nat) (edge : Edge) : Option Link :=
  match Fields.get? progress.idMap (trim edge.source),
    Fields.get? progress.idMap (trim edge.target) with
  | some source, some target =>
    if source = target then none
    else
      let number := Naming.numeral (index + 1)
      let preferred :=
        orText (sanitize (orText edge.id (source ++ "_" ++ target ++ "_" ++ number)))
          ("edge_" ++ number)
      let key := lower ((Fields.get? progress.keys (trim edge.source)).getD "")
      some
        { id := Naming.unique preferred used
          source, target
          condition := condition key (trim (edge.handle.getD "")) }
  | _, _ => none

/-- The links of edges, the first of which has the given index. -/
def links (progress : Progress) (used : List String) (index : Nat) : List Edge → List Link
  | [] => []
  | edge :: rest =>
    match link? progress used index edge with
    | some link => link :: links progress (used ++ [link.id]) (index + 1) rest
    | none => links progress used (index + 1) rest

/-- A chain of links through the ids, the first of which has the given number. -/
def chainFrom (number : Nat) : List String → List Link
  | a :: b :: rest =>
    let numeral := Naming.numeral number
    { id := orText (sanitize (a ++ "_to_" ++ b ++ "_" ++ numeral)) ("edge_" ++ numeral)
      source := a
      target := b
      condition := .always } :: chainFrom (number + 1) (b :: rest)
  | _ => []

/-- A chain of links through all ids that are not blank. -/
def chain (ids : List String) : List Link :=
  chainFrom 1 ((ids.map trim).filter fun id => id ≠ "")

/-- The steps that no link enters, or the first step if there is none. -/
def entryIds (ids : List String) (links : List Link) : List String :=
  match ids.filter fun id => links.all fun link => link.target ≠ id with
  | [] => ids.take 1
  | entry => entry

/-- The definition that a graph compiles to. A graph without an executable node has none, and no
version may be too large for a double. -/
def definition (policy : Policy) (nodes : List Node) (edges : List Edge) :
    Except Failure Definition :=
  let progress := Progress.addAll {} 0 nodes
  let ids := progress.used
  if ids.isEmpty then .error .nothingToCompile
  else if nodes.any hasHugeVersion then .error .outOfRange
  else
    let drawn := links progress [] 0 edges
    let links := if drawn.isEmpty then chain ids else drawn
    .ok
      { steps := progress.steps
        links
        entry := entryIds ids links
        policy
        idMap := progress.idMap }

end FlowGraph.Compile

namespace FlowGraph.Document

/-- The definition that a document compiles to. -/
def compile (document : Document) (policy : Policy) : Except Failure Definition :=
  Compile.definition policy document.nodes document.edges

end FlowGraph.Document
