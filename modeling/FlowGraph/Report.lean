/-
# Pre-run reports

How a document will compile, and what still needs attention, in one structured answer: a detail
for each node and each edge, the structural faults, the steps that block a run, the run inputs
that can be supplied, and the compiled definition or why there is none.
-/

import FlowGraph.Catalog.Handles
import FlowGraph.Definition.Compile
import FlowGraph.Readiness.Check

namespace FlowGraph

/-- An edge as seen from its source. -/
structure Outlet where
  edgeId : String
  handle : Option String
  targetId : String
  targetLabel : String

/-- What is reported on a node of a known type. -/
structure NodeDetail where
  node : Node
  kind : NodeType
  stepId : Option String
  role : String
  stage : Option Int
  handles : List String
  outlets : List Outlet
  issue : Option Issue

/-- What is reported on a node: a detail, or no more than the node if its type is unknown. -/
inductive NodeReport where
  | known (detail : NodeDetail)
  | unknownType (node : Node)

/-- How an edge is wired in the compiled definition. -/
inductive Wiring where
  | dropped
  | always
  | route (key : String)
  deriving DecidableEq, Repr

/-- What is reported on an edge. -/
structure EdgeReport where
  edge : Edge
  sourceLabel : String
  targetLabel : String
  wiring : Wiring

/-- The report on a document. -/
structure Report where
  document : Document
  nodes : List NodeReport
  edges : List EdgeReport
  stages : Fields Int
  faults : List StructureFault
  issues : List Issue
  inputs : List Readiness.InputRequirement
  definition : Except Failure Definition

namespace Report

/-- The caption of the node with the id, or the id of a node that does not exist. -/
def caption (document : Document) (id : String) : String :=
  ((document.node? id).map Node.caption).getD id

/-- The part that a node plays in a run. -/
def role (kind : NodeType) (mode : String) : String :=
  if kind.sourceOnly then "entry"
  else if kind.annotationOnly then "annotation"
  else if kind.builderOnly then "marker"
  else if kind.routingFor (some mode) = .none then "step"
  else "router"

/-- The edges that leave a node. -/
def outlets (document : Document) (node : Node) : List Outlet :=
  (document.edgesFrom node.id).map fun edge =>
    { edgeId := edge.id
      handle := edge.handle
      targetId := edge.target
      targetLabel := caption document edge.target }

/-- The report on one node. -/
def nodeReport (document : Document) (stages : Fields Int) (issues : Fields Issue)
    (idMap : Fields String) (node : Node) : Except Failure NodeReport :=
  match node.kind? with
  | none => .ok (.unknownType node)
  | some kind => do
    let handles ← kind.outputHandles (some node.mode) (.object node.config)
    return .known
      { node, kind, handles
        stepId := Fields.get? idMap node.id
        role := role kind node.mode
        stage := Fields.get? stages node.id
        outlets := outlets document node
        issue := Fields.get? issues node.id }

/-- The wiring of a link. -/
def wiringOf : Option Link → Wiring
  | none => .dropped
  | some link =>
    match link.condition with
    | .always => .always
    | .route key => .route key

/-- The link that joins the steps of an edge's ends. -/
def linkOf (links : List Link) (idMap : Fields String) (edge : Edge) : Option Link :=
  match Fields.get? idMap edge.source, Fields.get? idMap edge.target with
  | some source, some target =>
    links.find? fun link => link.source = source && link.target = target
  | _, _ => none

/-- The report on one edge. -/
def edgeReport (document : Document) (links : List Link) (idMap : Fields String) (edge : Edge) :
    EdgeReport :=
  { edge
    sourceLabel := caption document edge.source
    targetLabel := caption document edge.target
    wiring := wiringOf (linkOf links idMap edge) }

/-- The report on a document that would run under the policy. That it does not compile is part of
the report, unless a number in it is out of range. -/
def of (policy : Policy) (document : Document) : Except Failure Report := do
  let stages := document.stages
  let issues := Readiness.issues document
  let definition := document.compile policy
  let (links, idMap) ←
    match definition with
    | .ok compiled => .ok (compiled.links, compiled.idMap)
    | .error .outOfRange => .error .outOfRange
    | .error _ => .ok ([], [])
  let table := Fields.ofPairs (issues.map fun issue => (issue.nodeId, issue))
  let nodes ← document.nodes.mapM (nodeReport document stages table idMap)
  return {
    document, nodes, stages, issues, definition
    edges := document.edges.map (edgeReport document links idMap)
    faults := document.structureFaults
    inputs := Readiness.inputRequirements document }

/-- The steps that block a run. -/
def blockers (report : Report) : List Issue := Issue.blockers report.issues

/-- The document keeps the structural rules. -/
def isValid (report : Report) : Bool := report.faults.isEmpty

/-- The definition compiled. -/
def isCompiled (report : Report) : Bool :=
  match report.definition with
  | .ok _ => true
  | .error _ => false

/-- Nothing stands in the way of a run. -/
def canRun (report : Report) : Bool :=
  report.isValid && report.blockers.isEmpty && report.isCompiled

/-- The number of steps that are executed. -/
def executableCount (report : Report) : Nat :=
  match report.definition with
  | .ok compiled => compiled.idMap.length
  | .error _ => 0

/-- The edge is followed on a route only. -/
def EdgeReport.isRouted (report : EdgeReport) : Bool :=
  match report.wiring with
  | .route _ => true
  | _ => false

/-- The number of edges that are followed on a route only. -/
def routedCount (report : Report) : Nat := (report.edges.filter EdgeReport.isRouted).length

/-- The number of stages up to the highest one in use. -/
def stageCount (report : Report) : Int :=
  match report.stages.map Prod.snd with
  | [] => 0
  | first :: rest => rest.foldl max first + 1

end Report

end FlowGraph
