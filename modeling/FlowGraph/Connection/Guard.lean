/-
# The connection guard

Decides whether an edge may be added to a document. The first rule that applies decides: both ends
must exist; a step is not connected to itself; nothing enters a source-only and nothing leaves a
terminal-only step; and the edge must not close a loop. An edge that is admitted gets a warning
when what its source produces does not cover what its target needs.
-/

import FlowGraph.Catalog.Standard

namespace FlowGraph.Connection

/-- All ids met on the way from `todo` along `next`, besides those already `seen`. -/
def collect (next : String → List String) : Nat → List String → List String → List String
  | 0, _, seen => seen
  | _, [], seen => seen
  | fuel + 1, id :: todo, seen =>
    if seen.contains id then collect next fuel todo seen
    else collect next fuel (next id ++ todo) (id :: seen)

/-- The targets of the edges that leave a node. -/
def targets (edges : List Edge) (id : String) : List String :=
  (edges.filter fun edge => edge.source = id).map Edge.target

/-- The node and everything it leads to. Every edge is followed once, which bounds the search. -/
def downstream (edges : List Edge) (id : String) : List String :=
  collect (targets edges) (edges.length + 2) [id] []

/-- A walk against the edges: what it found so far, and the nodes whose sources it has still to
look for. Both lists have the newest in front. -/
structure Ascent where
  found : List String
  todo : List String

namespace Ascent

/-- Looks at one edge for a source of `current`. A source that is new is found, and its own sources
are to be looked for. -/
def meet (current : String) (ascent : Ascent) (edge : Edge) : Ascent :=
  if edge.target ≠ current || ascent.found.contains edge.source then ascent
  else { found := edge.source :: ascent.found, todo := edge.source :: ascent.todo }

/-- Takes the next node and looks at all edges for its sources. -/
def advance (edges : List Edge) (current : String) (rest : List String) (ascent : Ascent) :
    Ascent :=
  edges.foldl (meet current) { ascent with todo := rest }

/-- Advances until nothing is left to do, at most `fuel` times. -/
def run (edges : List Edge) : Nat → Ascent → Ascent
  | 0, ascent => ascent
  | fuel + 1, ascent =>
    match ascent.todo with
    | [] => ascent
    | current :: rest => run edges fuel (ascent.advance edges current rest)

/-- The walk when it is finished. Every node that it takes was found along an edge, apart from the
first one, and no source is found twice. -/
def finish (edges : List Edge) (id : String) : Ascent :=
  run edges (edges.length + 1) { found := [], todo := [id] }

end Ascent

/-- Every node with a path to this one. -/
def ancestors (edges : List Edge) (id : String) : List String := (Ascent.finish edges id).found

/-- An edge from the source to the target would close a loop. -/
def createsCycle (edges : List Edge) (source target : String) : Bool :=
  source = target || (downstream edges target).contains source

/-- What to connect after a node. -/
def suggestedNext (node : Node) : List String :=
  (node.kind?.map fun kind => kind.suggestionsFor (some node.mode)).getD []

/-- What the target needs and the source cannot produce. -/
def missingCapabilities (source target : Node) : List String :=
  match source.modeRecord?, target.modeRecord? with
  | some sourceMode, some targetMode =>
    Document.distinct ((targetMode.needs.filter fun need =>
      !need.isMet sourceMode.produces).map Need.caption)
  | _, _ => []

/-- An end of the connection does not exist. -/
def unknownMessage : String := "Cannot connect these steps."

/-- The target is source-only. -/
def sourceOnlyMessage : String := "Trigger cannot have incoming connections."

/-- The source is terminal-only. -/
def terminalOnlyMessage : String := "End marker cannot connect to another step."

/-- The connection would close a loop. -/
def cycleMessage : String := "This connection creates a loop. Use only forward flow steps."

/-- What to do about an end marker. -/
def terminalSuggestions : List String := ["Use End Marker as the final visual step only."]

/-- The verdict on a connection of two nodes, as far as their types decide it. -/
def checkNodes : Option Node → Option Node → Verdict
  | some source, some target =>
    if target.isSourceOnly then .refuse sourceOnlyMessage (suggestedNext source)
    else if source.isTerminalOnly then .refuse terminalOnlyMessage terminalSuggestions
    else
      match missingCapabilities source target with
      | [] => { allow := true }
      | missing =>
        { allow := true
          level := .warning
          message := some ("This connection may need manual mapping for "
            ++ String.intercalate ", " missing ++ ".")
          suggestions := suggestedNext source }
  | _, _ => .refuse unknownMessage []

/-- The verdict on an edge that is to be added to a document. -/
def validate (document : Document) (source target : String) : Verdict :=
  match document.node? source, document.node? target with
  | some sourceNode, some targetNode =>
    if source = target then .refuse cycleMessage []
    else
      let verdict := checkNodes (some sourceNode) (some targetNode)
      if verdict.allow && createsCycle document.edges source target then .refuse cycleMessage []
      else verdict
  | _, _ => .refuse unknownMessage []

end FlowGraph.Connection
