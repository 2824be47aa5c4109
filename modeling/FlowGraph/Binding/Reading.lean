/-
# Reading bindings

Bindings arrive in wire form or in row form, and both readings are total: what is no reference is
a constant. A text constant is trimmed; a row without a usable source reads the run input.
-/

import FlowGraph.Binding.Basic

namespace FlowGraph.Binding

open FlowGraph.Text

/-- Reads the wire form of a binding that is a text. -/
def ofText (s : String) : Binding :=
  match Path.readStepReference? s with
  | some (stepId, path) => .stepOutput stepId path
  | none =>
    match Path.readInputReference? (trimChars s.toList) with
    | some path => .runInput (String.ofList path)
    | none => .constant (.text (trim s))

/-- Reads a row that names the output of a step. A path that is itself a reference to a step
supplies the path, and the step if the row names none. -/
def ofStepRow (row : Fields Value) : Binding :=
  let stepId := ((Fields.get? row "step_id").getD .null).trimmedText
  let path := ((Fields.get? row "path").getD .null).filledText
  match Path.readStepReference? path with
  | some (named, inner) => .stepOutput (if stepId = "" then named else stepId) inner
  | none => .stepOutput stepId (String.ofList (Path.dropOutput (trimChars path.toList)))

/-- Reads a row that names a run input. -/
def ofInputRow (row : Fields Value) : Binding :=
  let path := trimChars ((Fields.get? row "path").getD .null).filledText.toList
  .runInput (String.ofList ((Path.readInputReference? path).getD path))

/-- Reads the row form of a binding, given what stands under its `source`. -/
def ofRow (source : Value) (row : Fields Value) : Binding :=
  match trim (source.orElse (.text "run_input")).display with
  | "step_output" => ofStepRow row
  | "constant" => .constant ((Fields.get? row "value").getD .null)
  | _ => ofInputRow row

/-- Reads a binding in either form. -/
def parse : Value → Binding
  | .text s => ofText s
  | .object row =>
    match Fields.get? row "source" with
    | some source => ofRow source row
    | none => .constant (.object row)
  | value => .constant value

/-- Reads pairs of a slot and a binding. Slots are trimmed and blank ones are skipped. -/
def parsePairs (pairs : Fields Value) : Bindings :=
  Fields.ofPairs <| pairs.filterMap fun (slot, value) =>
    if trim slot = "" then none else some (trim slot, parse value)

/-- Reads the bindings of a step; anything but a mapping holds none. -/
def parseAll (value : Value) : Bindings := parsePairs value.fields

/-- The wire form of bindings. A step reference without a step cannot be resolved and is left
out. -/
def toWireAll (bindings : Bindings) : Fields Value :=
  Fields.ofPairs <| bindings.filterMap fun (slot, binding) =>
    if trim slot = "" then none
    else if binding.stepId? = some "" then none
    else some (trim slot, binding.toWire)

end FlowGraph.Binding
