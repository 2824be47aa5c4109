/-
# Bindings

Where a step's input comes from: the run input, the output of another step, or a constant. A
binding has two written forms. The *wire form* is what a saved definition holds: a reference text,
or the constant itself. The *row form* is an object with a `source`, which documents hold.
-/

import FlowGraph.Binding.Path
import FlowGraph.Value.Display

namespace FlowGraph

/-- Where a step's input comes from. -/
inductive Binding where
  | runInput (path : String)
  | stepOutput (stepId path : String)
  | constant (value : Value)
  deriving Inhabited

/-- The bindings of a step, by input slot. -/
abbrev Bindings := Fields Binding

namespace Binding

/-- The wire form. -/
def toWire : Binding → Value
  | runInput path => .text (if path = "" then "$.input" else "$.input." ++ path)
  | stepOutput stepId path => .text (Path.stepReference stepId path)
  | constant value => value

/-- The row form. -/
def toRow : Binding → Value
  | runInput path => .object [("source", .text "run_input"), ("path", .text path)]
  | stepOutput stepId path =>
    .object [("source", .text "step_output"), ("step_id", .text stepId), ("path", .text path)]
  | constant value => .object [("source", .text "constant"), ("value", value)]

/-- The two bindings read the same thing. -/
def same : Binding → Binding → Bool
  | runInput a, runInput b => a == b
  | stepOutput a p, stepOutput b q => a == b && p == q
  | constant a, constant b => a.same b
  | _, _ => false

/-- The step whose output the binding reads. -/
def stepId? : Binding → Option String
  | stepOutput stepId _ => some stepId
  | _ => none

/-- The top-level key of the run input that the binding reads. -/
def inputKey? : Binding → Option String
  | runInput path => Path.firstKey? path
  | _ => none

end Binding

/-- The value carries content: it is not null, not blank and not empty. -/
def Value.isMeaningful : Value → Bool
  | .null => false
  | .text s => Text.trim s ≠ ""
  | .list items => !items.isEmpty
  | .object fields => !fields.isEmpty
  | _ => true

/-- The binding carries content: it is a reference, or a constant that does. -/
def Binding.isMeaningful : Binding → Bool
  | .constant value => value.isMeaningful
  | _ => true

end FlowGraph
