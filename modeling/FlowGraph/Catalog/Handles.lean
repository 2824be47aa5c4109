/-
# Output handles

The handles from which edges can be drawn out of a routing step: the two branches of a condition,
or one handle for each route key of a router's free-form configuration.
-/

import FlowGraph.Catalog.Basic
import FlowGraph.Value.Walk

namespace FlowGraph

/-- The key of one configured route: its key, or else its id. -/
def routeKey (route : Value) : Option String :=
  match route with
  | .object _ =>
    let key := ((route.field "key").orElse (route.field "id")).trimmedText
    if key = "" then none else some key
  | _ => none

/-- The handles of a router: its route keys and its default route, each once. -/
def routeHandles (config : Fields Value) : Except Failure (List String) := do
  let routes ← ((Fields.get? config "routes").getD .null |>.orElse (.list [])).walk
  let fallback := ((Fields.get? config "default_route").getD .null).trimmedText
  let keys := routes.filterMap routeKey
  return Document.distinct (if fallback = "" then keys else keys ++ [fallback])

/-- The handles that a step of this type and mode emits edges from. -/
def NodeType.outputHandles (type : NodeType) (mode : Option String) (config : Value) :
    Except Failure (List String) :=
  if type.emitsHandles then
    match type.routingFor mode with
    | .route =>
      match config with
      | .object fields => routeHandles fields
      | _ => .error .notMapping
    | .branch => .ok ["true", "false"]
    | _ => .ok []
  else .ok []

end FlowGraph
