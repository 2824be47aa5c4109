/-
# Values as keys

Tables are looked up by texts. Any other simple value can be looked up as well, although nothing is
kept under it; lists and mappings cannot.
-/

import FlowGraph.Failure
import FlowGraph.Value.Display

namespace FlowGraph

/-- The text of a value by which a table is looked up. -/
def Value.keyText : Value → Except Failure String
  | .list _ | .object _ => .error .unsuitable
  | value => .ok value.display

/-- The text that a value is taken for where only texts will do; a value that counts as nothing is
an empty one. -/
def Value.onlyText : Value → Except Failure String
  | .text s => .ok s
  | value => if value.isTruthy then .error .notMapping else .ok ""

end FlowGraph
