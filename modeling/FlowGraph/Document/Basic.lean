/-
# Workflow documents

A document is the graph of steps that is being edited. Nodes and edges are lists, and their order
is part of the document. Ids are meant to be distinct but nothing here relies on it: a look-up by
id takes the first node, and a table of nodes by id keeps the last.
-/

import FlowGraph.Binding.Basic

namespace FlowGraph

/-- The backend key, and perhaps the version, that a node executes as. -/
structure NodeRef where
  key : String
  version : Option Int := none
  deriving DecidableEq, Repr, Inhabited

/-- Everything about a node except its identity and its place. -/
structure NodeData where
  mode : String
  ref : Option NodeRef := none
  config : Fields Value := []
  bindings : Bindings := []
  onError : String := "fail_fast"
  join : String := "all"
  enabled : Bool := true
  implemented : Bool := true
  metadata : Fields Value := []
  deriving Inhabited

/-- A step on the canvas. A node read without a position is unplaced until it is rebuilt. -/
structure Node where
  id : String
  type : String
  label : String := ""
  position : Option (Fields Float) := none
  data : NodeData
  deriving Inhabited

/-- A directed edge. The handle names the branch of a routing node that the edge leaves from. -/
structure Edge where
  id : String
  source : String
  target : String
  handle : Option String := none
  deriving DecidableEq, Repr, Inhabited

/-- The graph being edited. -/
structure Document where
  name : String := "Untitled Workflow"
  nodes : List Node := []
  edges : List Edge := []
  deriving Inhabited

namespace Node

/-- The name of the operating mode. -/
def mode (node : Node) : String := node.data.mode

/-- The step's free-form configuration. -/
def config (node : Node) : Fields Value := node.data.config

/-- What the configuration holds under the key; null if it holds nothing. -/
def setting (node : Node) (key : String) : Value := (Fields.get? node.config key).getD .null

/-- The input bindings. -/
def bindings (node : Node) : Bindings := node.data.bindings

/-- The key of the backend reference, empty without one. -/
def refKey (node : Node) : String := (node.data.ref.map NodeRef.key).getD ""

/-- Where the node stands; an unplaced node stands at the origin. -/
def coordinates (node : Node) : Fields Float := node.position.getD [("x", 0), ("y", 0)]

/-- The coordinates as a free-form value; an unplaced node stands at integer zeros. -/
def positionValue (node : Node) : Value :=
  match node.position with
  | some places => .object (Fields.mapValues .float places)
  | none => .object [("x", .int 0), ("y", .int 0)]

/-- The label, or the type of a node without one. -/
def caption (node : Node) : String := if node.label = "" then node.type else node.label

/-- The node with its place settled. Every edit that rebuilds a node settles it. -/
def settled (node : Node) : Node := { node with position := some node.coordinates }

/-- The rebuilt node with other data. -/
def withData (node : Node) (data : NodeData) : Node := { node.settled with data := data }

/-- The rebuilt node with other bindings. -/
def withBindings (node : Node) (bindings : Bindings) : Node :=
  node.withData { node.data with bindings := bindings }

/-- The rebuilt node with another configuration. -/
def withConfig (node : Node) (config : Fields Value) : Node :=
  node.withData { node.data with config := config }

end Node

namespace Document

/-- The ids of the nodes in order. -/
def nodeIds (document : Document) : List String := document.nodes.map Node.id

/-- The first node with the id. -/
def node? (document : Document) (id : String) : Option Node :=
  document.nodes.find? fun node => node.id = id

/-- The nodes by id; of several nodes with one id the last is kept, in the place of the first. -/
def nodeTable (document : Document) : Fields Node :=
  Fields.ofPairs (document.nodes.map fun node => (node.id, node))

/-- The edges that leave the node. -/
def edgesFrom (document : Document) (id : String) : List Edge :=
  document.edges.filter fun edge => edge.source = id

/-- The edges that enter the node. -/
def edgesTo (document : Document) (id : String) : List Edge :=
  document.edges.filter fun edge => edge.target = id

/-- The elements of a list without repeats, each in its first place. -/
def distinct (ids : List String) : List String :=
  ids.foldl (fun seen id => if seen.contains id then seen else seen ++ [id]) []

/-- The direct predecessors of a node in edge order, without repeats. -/
def incomingSources (document : Document) (id : String) : List Node :=
  (distinct ((document.edgesTo id).map Edge.source)).filterMap (Fields.get? document.nodeTable)

/-- The first trigger. -/
def trigger? (document : Document) : Option Node :=
  document.nodes.find? fun node => node.type = "trigger"

/-- The document with other nodes. -/
def withNodes (document : Document) (nodes : List Node) : Document :=
  { document with nodes := nodes }

/-- The document with other edges. -/
def withEdges (document : Document) (edges : List Edge) : Document :=
  { document with edges := edges }

/-- The document with `node` in place of every node of the same id. -/
def replaceNode (document : Document) (node : Node) : Document :=
  document.withNodes (document.nodes.map fun other => if other.id = node.id then node else other)

end Document

end FlowGraph
