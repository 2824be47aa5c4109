/-
# Mapping inputs

Infers the input bindings of a step from the steps before it. Each binding rule of the step's mode
fills one slot: with the output of the first source at a lower stage, or else with a run input. A
slot that already holds something is left alone; a meaningful setting in the step's configuration
wins even when the mapping is forced.
-/

import FlowGraph.Binding.Reading
import FlowGraph.Document.Structure
import FlowGraph.Stage

namespace FlowGraph.Mapping

/-- The output that a source offers for a rule. -/
def suggested (source : Node) (rule : BindingRule) : Option Binding :=
  rule.sourceOutput.map fun output =>
    let path :=
      match source.modeRecord? with
      | some mode => mode.outputPathFor output
      | none => (Fields.get? defaultOutputPaths output).getD ""
    .stepOutput source.id path

/-- The slot holds a binding with content. -/
def holdsBinding (bindings : Bindings) (key : String) : Bool :=
  (Fields.get? bindings key).any Binding.isMeaningful

/-- The configuration holds content under the key. -/
def holdsSetting (config : Fields Value) (key : String) : Bool :=
  (Fields.get? config key).any Value.isMeaningful

/-- What a rule fills its slot with: the output of the first source that offers one, or else the
run input of its fallback. -/
def filling (candidates : List Node) (rule : BindingRule) : Option Binding :=
  (candidates.findSome? fun source => suggested source rule).orElse fun _ =>
    if rule.runInputFallback = "" then none else some (Binding.ofText rule.runInputFallback)

/-- The rule leaves the bindings as they are. -/
def isSettled (force : Bool) (config : Fields Value) (bindings : Bindings) (rule : BindingRule) :
    Bool :=
  rule.configKeys.any (holdsSetting config)
    || (!force && (rule.bindingKeys.any (holdsBinding bindings)
      || holdsBinding bindings rule.targetKey))

/-- Bindings, and whether any of them was changed. -/
structure Resolution where
  bindings : Bindings
  changed : Bool := false

/-- Applies one rule. -/
def applyRule (force : Bool) (config : Fields Value) (candidates : List Node)
    (resolution : Resolution) (rule : BindingRule) : Resolution :=
  if isSettled force config resolution.bindings rule then resolution
  else
    match filling candidates rule with
    | none => resolution
    | some binding =>
      if (Fields.get? resolution.bindings rule.targetKey).any (Binding.same binding) then resolution
      else { bindings := Fields.set resolution.bindings rule.targetKey binding, changed := true }

/-- The binding rules of a node's mode. -/
def rulesOf (node : Node) : List BindingRule := (node.modeRecord?.map Mode.bindingRules).getD []

/-- The bindings of a step after mapping its inputs from the sources. -/
def resolve (target : Node) (sources : List Node) (stages : Fields Int) (force : Bool) :
    Resolution :=
  let candidates := sources.filter fun source => Stage.canFeed stages source.id target.id
  (rulesOf target).foldl (applyRule force target.config candidates) { bindings := target.bindings }

/-- The node takes part when a whole document is mapped. -/
def isMappable (node : Node) : Bool := !(node.isSourceOnly || node.isBuilderOnly)

/-- Maps the inputs of one node from the nodes before it, as they stand in `document`, and stores
the result in `edited`. Nothing is returned when nothing changes. -/
def mapNode (document : Document) (stages : Fields Int) (force : Bool)
    (edited : Option Document) (target : Node) : Option Document :=
  let resolution := resolve target (document.incomingSources target.id) stages force
  if resolution.changed then
    some ((edited.getD document).replaceNode (target.withBindings resolution.bindings))
  else edited

/-- Maps the inputs of every mappable node with incoming edges; nothing if nothing changes. -/
def mapAll (document : Document) (force : Bool) : Option Document :=
  (document.nodes.filter fun node => isMappable node && !(document.edgesTo node.id).isEmpty).foldl
    (mapNode document document.stages force) none

/-- Maps the inputs of one node, or of all; nothing if nothing changes. -/
def autoMap (document : Document) (nodeId : Option String) (force : Bool) :
    Except Failure (Option Document) :=
  match nodeId with
  | none => .ok (mapAll document force)
  | some id => do
    let target ← document.requireNode id
    return mapNode document document.stages force none target

/-- Maps the inputs of a node from one source; nothing if nothing changes. -/
def mapFromSource (document : Document) (target source : String) :
    Except Failure (Option Document) := do
  let targetNode ← document.requireNode target
  let sourceNode ← document.requireNode source
  let resolution := resolve targetNode [sourceNode] document.stages false
  if resolution.changed then
    return some (document.replaceNode (targetNode.withBindings resolution.bindings))
  else return none

end FlowGraph.Mapping
