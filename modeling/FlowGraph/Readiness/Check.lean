/-
# Readiness checks

Which requirements of a step are not met, and the run inputs that would make up for them.
-/

import FlowGraph.Document.Structure
import FlowGraph.Readiness.Context

namespace FlowGraph.Readiness

namespace Context

/-- An item of the list under the key passes the test. -/
def anyItem (context : Context) (key : String) (test : Value → Bool) : Bool :=
  match context.node.setting key with
  | .list items => items.any test
  | _ => false

/-- The value is a mapping that holds text under the first key, or else under the second. -/
def holdsText (first second : String) (value : Value) : Bool :=
  match value with
  | .object _ => ((value.field first).orElse (value.field second)).trimmedText ≠ ""
  | _ => false

/-- A condition names a field, or there is an expression or a value to test. -/
def hasCondition (context : Context) : Bool :=
  context.anyItem "conditions" (holdsText "field" "field")
    || context.settingText "expression" ≠ ""
    || context.slotOk "value" || context.configOk "value"
    || context.hasIncoming

/-- There is a route with a key, or a default route. -/
def hasRoute (context : Context) : Bool :=
  context.anyItem "routes" (holdsText "key" "id") || context.settingText "default_route" ≠ ""

/-- The configuration holds a number under the key. -/
def holdsNumber (context : Context) (key : String) : Bool :=
  match context.node.setting key with
  | .int _ => true
  | .float _ => true
  | _ => false

/-- A delay has a duration or a point in time. -/
def hasTiming (context : Context) : Bool :=
  ["wait_ms", "duration_ms"].any (fun key => context.holdsNumber key || context.slotOk key)
    || ["target_time", "until_datetime"].any
      (fun key => context.settingText key ≠ "" || context.slotOk key)

/-- There is a step to merge. -/
def hasMergeSource (context : Context) : Bool :=
  context.hasIncoming || context.anyItem "from_nodes" fun item => item.trimmedText ≠ ""

/-- A task is assigned to someone. -/
def hasAssignee (context : Context) : Bool :=
  let assignee := context.node.setting "assignee"
  (assignee.field "type").trimmedText ≠ "" && (assignee.field "value").trimmedText ≠ ""

/-- A checklist has an item. -/
def hasChecklistItem (context : Context) : Bool :=
  context.anyItem "checklist_items" fun item => item.trimmedText ≠ ""

/-- The named test passes. A test without an implementation never does. -/
def passes (context : Context) : Check → Bool
  | .conditionSource => context.hasCondition
  | .routes => context.hasRoute
  | .delayTiming => context.hasTiming
  | .mergeSources => context.hasMergeSource
  | .assignee => context.hasAssignee
  | .checklistItems => context.hasChecklistItem
  | .unknown _ => false

/-- The requirement is met. -/
def satisfies (context : Context) (requirement : Requirement) : Bool :=
  match requirement.check with
  | some check => context.passes check
  | none =>
    requirement.bindingKeys.any context.slotOk || requirement.configKeys.any context.configOk
      || (requirement.satisfiedByIncoming && context.hasIncoming)

end Context

/-- The requirements of a step: those of its backend key if it has any of its own, and otherwise
those of its mode. -/
def requirementsFor (node : Node) : List Requirement :=
  if node.isSourceOnly || node.isBuilderOnly then []
  else
    match Catalog.standard.specialized? node.refKey with
    | some requirements => requirements
    | none => (node.modeRecord?.map Mode.requirements).getD []

/-- The requirements of a step that are not met, given the stages. -/
def missing (document : Document) (stages : Fields Int) (node : Node) : List Requirement :=
  let context := Context.of document stages node
  (requirementsFor node).filter fun requirement => !context.satisfies requirement

/-- What is missing on a step, if anything is. -/
def issue? (document : Document) (stages : Fields Int) (node : Node) : Option Issue :=
  match missing document stages node with
  | [] => none
  | missing =>
    some
      { nodeId := node.id
        label := node.caption
        missing := missing.map Requirement.label
        inputMissing := (missing.filter fun requirement => !requirement.setup).map Requirement.label
        setupMissing := (missing.filter Requirement.setup).map Requirement.label }

/-- What is missing on the steps of a document, in document order. -/
def issues (document : Document) : List Issue :=
  document.nodes.filterMap (issue? document document.stages)

/-- A slot that a run input would fill. -/
structure InputTarget where
  nodeId : String
  targetKey : String
  deriving DecidableEq, Repr

/-- A run input that would fill one or more slots. -/
structure InputRequirement where
  input : RuntimeInput
  targets : List InputTarget

/-- The slots that could be filled by run inputs, each with its input. -/
def openInputs (document : Document) : List (RuntimeInput × InputTarget) :=
  let stages := document.stages
  document.nodes.flatMap fun node =>
    (missing document stages node).filterMap fun requirement =>
      if requirement.setup then none
      else
        requirement.runtimeInput.map fun input =>
          (input,
            { nodeId := node.id
              targetKey := requirement.bindingKeys.headD input.inputKey })

/-- Adds a slot to the requirement for its input key, which keeps its first wording. -/
def addInput (table : Fields InputRequirement) (entry : RuntimeInput × InputTarget) :
    Fields InputRequirement :=
  let (input, target) := entry
  match Fields.get? table input.inputKey with
  | some known =>
    Fields.set table input.inputKey { known with targets := known.targets ++ [target] }
  | none => Fields.set table input.inputKey { input, targets := [target] }

/-- The run inputs that would make up for everything missing that is no setup. -/
def inputRequirements (document : Document) : List InputRequirement :=
  ((openInputs document).foldl addInput []).map Prod.snd

end FlowGraph.Readiness
