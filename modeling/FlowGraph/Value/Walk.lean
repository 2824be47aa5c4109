/-
# Walking free-form values

Lists hold items, texts hold characters and mappings hold keys; nothing else can be walked.
-/

import FlowGraph.Failure

namespace FlowGraph

/-- The items met when a free-form value is walked: the items of a list, the characters of a text
or the keys of a mapping. Other values cannot be walked. -/
def Value.walk : Value → Except Failure (List Value)
  | .list items => .ok items
  | .text s => .ok (s.toList.map fun c => .text (String.ofList [c]))
  | .object fields => .ok (fields.map fun pair => .text pair.1)
  | _ => .error .unsuitable

end FlowGraph
