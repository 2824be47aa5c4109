/-
# Character classes as ranges

A class of characters is a list of closed ranges of code points. This module supplies the one
lookup that every class shares.
-/

namespace FlowGraph.Text

/-- The code point lies in one of the closed ranges. -/
def inRanges (ranges : List (Nat × Nat)) (code : Nat) : Bool :=
  ranges.any fun range => range.1 ≤ code && code ≤ range.2

end FlowGraph.Text
