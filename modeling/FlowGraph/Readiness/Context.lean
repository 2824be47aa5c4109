/-
# What a readiness check sees

The node under inspection, the stages, the other nodes, and the trigger's sample input. A binding
or a setting counts as present when what it reads is: a reference to a step needs a step at a lower
stage, and a reference to the run input, or to the output of a trigger, needs a sample value.
-/

import FlowGraph.Binding.Reading
import FlowGraph.Stage
import FlowGraph.Text.Case

namespace FlowGraph.Readiness

/-- Other keys under which a sample input may be held. -/
def inputAliases : Fields (List String) :=
  [("doc_ids", ["doc_id"]), ("doc_id", ["doc_ids"]), ("folder_path", ["folderPath"]),
   ("ruleset_doc_id", ["rulesetDocId"])]

/-- The sample value that a trigger holds for a run-input key, or for another name of it. -/
def sampleInput? (trigger : Option Node) (key : String) : Option Value :=
  trigger.bind fun trigger =>
    let key := Text.lower (Path.firstKey key)
    if key = "" then none
    else
      match trigger.setting "input" with
      | .object payload =>
        (key :: (Fields.get? inputAliases key).getD []).findSome? fun name =>
          (Fields.get? payload name).bind fun value =>
            if value.isMeaningful then some value else none
      | _ => none

/-- What the checks of one node can see. -/
structure Context where
  node : Node
  stages : Fields Int
  nodes : Fields Node
  trigger : Option Node
  hasIncoming : Bool

/-- An edge that feeds its target from an earlier step other than a trigger. -/
def feeds (stages : Fields Int) (nodes : Fields Node) (edge : Edge) : Bool :=
  Stage.canFeed stages edge.source edge.target
    && !(Fields.get? nodes edge.source).any Node.isSourceOnly

/-- The context of a node. -/
def Context.of (document : Document) (stages : Fields Int) (node : Node) : Context :=
  let nodes := document.nodeTable
  { node, stages, nodes
    trigger := document.trigger?
    hasIncoming := (document.edgesTo node.id).any (feeds stages nodes) }

namespace Context

/-- What the binding reads is present. -/
def bindingOk (context : Context) (binding : Binding) : Bool :=
  match binding with
  | .runInput _ =>
    match binding.inputKey? with
    | none => true
    | some key => context.trigger.isNone || (sampleInput? context.trigger key).isSome
  | .stepOutput stepId path =>
    match Fields.get? context.nodes stepId with
    | some source =>
      if source.isSourceOnly then
        let key := Path.firstKey path
        key ≠ "" && (sampleInput? (some source) key).isSome
      else Stage.canFeed context.stages stepId context.node.id
    | none => Stage.canFeed context.stages stepId context.node.id
  | .constant value => value.isMeaningful

/-- The setting, read as a binding if it is a text, is present. -/
def settingOk (context : Context) (value : Value) : Bool :=
  match value with
  | .text s => Text.trim s ≠ "" && context.bindingOk (Binding.ofText s)
  | _ => value.isMeaningful

/-- The slot holds a binding whose source is present. -/
def slotOk (context : Context) (key : String) : Bool :=
  (Fields.get? context.node.bindings key).any context.bindingOk

/-- The configuration holds something present under the key. -/
def configOk (context : Context) (key : String) : Bool :=
  (Fields.get? context.node.config key).any context.settingOk

/-- What the configuration holds under the key, as trimmed text. -/
def settingText (context : Context) (key : String) : String :=
  (context.node.setting key).trimmedText

end Context

end FlowGraph.Readiness
