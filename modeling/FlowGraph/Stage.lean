/-
# Stages

The depth of every step in the graph: a step's stage is one more than the greatest stage among the
steps before it. Stages decide which steps may feed which. Annotations and self-loops take no
part. A step on a cycle, or after one, is never reached by the sweep; it gets a best-effort stage
afterwards, in node order, unless the caller insists on a graph without cycles.
-/

import FlowGraph.Catalog.Standard
import FlowGraph.Order

namespace FlowGraph.Stage

/-- What is stored under the key, zero if nothing is. -/
def entry (table : Fields Int) (key : String) : Int := (Fields.get? table key).getD 0

/-- The ids of the nodes that have a stage, in node order. -/
def stagedIds (nodes : List Node) : List String :=
  (nodes.filter fun node => !node.isAnnotation).map Node.id

/-- The edges between two different staged nodes, as pairs of ids. -/
def links (ids : List String) (edges : List Edge) : List (String × String) :=
  (edges.filter fun edge =>
    ids.contains edge.source && ids.contains edge.target && edge.source ≠ edge.target).map
      fun edge => (edge.source, edge.target)

/-- The targets of the links that leave a node, one for each link. -/
def successors (links : List (String × String)) (id : String) : List String :=
  (links.filter fun link => link.1 = id).map Prod.snd

/-- The number of links that enter a node. -/
def indegree (links : List (String × String)) (id : String) : Int :=
  (links.filter fun link => link.2 = id).length

/-- A sweep through the graph: the stages so far, the number of incoming links not yet followed,
and the nodes whose links are to be followed next. -/
structure Sweep where
  stage : Fields Int
  waiting : Fields Int
  queue : List String

namespace Sweep

/-- Follows one link out of a node: its target is at least at stage `depth`, and joins the queue
when this was the last link that it waited for. -/
def follow (depth : Int) (sweep : Sweep) (target : String) : Sweep :=
  let left := entry sweep.waiting target - 1
  { stage := Fields.set sweep.stage target (max (entry sweep.stage target) depth)
    waiting := Fields.set sweep.waiting target left
    queue := if left = 0 then sweep.queue ++ [target] else sweep.queue }

/-- Takes the next node off the queue and follows its links. -/
def advance (links : List (String × String)) (current : String) (rest : List String)
    (sweep : Sweep) : Sweep :=
  (successors links current).foldl (follow (entry sweep.stage current + 1))
    { sweep with queue := rest }

/-- Advances until the queue is empty, at most `fuel` times. -/
def run (links : List (String × String)) : Nat → Sweep → Sweep
  | 0, sweep => sweep
  | fuel + 1, sweep =>
    match sweep.queue with
    | [] => sweep
    | current :: rest => run links fuel (sweep.advance links current rest)

/-- The sweep before the first step: every node at stage zero, those without incoming links in the
queue. -/
def start (ids : List String) (links : List (String × String)) : Sweep :=
  { stage := Fields.ofPairs (ids.map fun id => (id, 0))
    waiting := Fields.ofPairs (ids.map fun id => (id, indegree links id))
    queue := ids.filter fun id => indegree links id = 0 }

/-- The finished sweep. A node joins the queue once at the start for each time it is listed, and
once more when it stops waiting, so twice the number of nodes is enough fuel. -/
def finish (ids : List String) (links : List (String × String)) : Sweep :=
  run links (2 * ids.length) (start ids links)

/-- The nodes that still wait for a link. -/
def leftover (ids : List String) (sweep : Sweep) : List String :=
  ids.filter fun id => 0 < entry sweep.waiting id

end Sweep

/-- The last position of an id. -/
def lastIndex (ids : List String) (id : String) : Nat :=
  ids.length - 1 - ids.reverse.idxOf id

/-- A best-effort stage: above every source of an edge into the node. -/
def settle (ids : List String) (edges : List Edge) (stage : Fields Int) (id : String) :
    Fields Int :=
  let best := (edges.filter fun edge =>
      edge.target = id && ids.contains edge.source && edge.source ≠ id).foldl
    (fun best edge => max best (entry stage edge.source + 1)) (entry stage id)
  Fields.set stage id best

/-- The stages of all nodes but annotations. -/
def compute (nodes : List Node) (edges : List Edge) : Fields Int :=
  let ids := stagedIds nodes
  let sweep := Sweep.finish ids (links ids edges)
  let stuck := Order.sortBy (fun a b => decide (lastIndex ids a ≤ lastIndex ids b))
    (sweep.leftover ids)
  stuck.foldl (settle ids edges) sweep.stage

/-- The stages of a graph that has to be free of cycles. -/
def computeStrict (nodes : List Node) (edges : List Edge) : Except Failure (Fields Int) :=
  let ids := stagedIds nodes
  let sweep := Sweep.finish ids (links ids edges)
  match sweep.leftover ids with
  | [] => .ok sweep.stage
  | stuck => .error (.cycle stuck)

/-- The source stands at a strictly lower stage than the target. -/
def canFeed (stages : Fields Int) (source target : String) : Bool :=
  match Fields.get? stages source, Fields.get? stages target with
  | some low, some high => low < high
  | _, _ => false

end FlowGraph.Stage

namespace FlowGraph.Document

/-- The stages of the nodes of a document. -/
def stages (document : Document) : Fields Int := Stage.compute document.nodes document.edges

end FlowGraph.Document
