/-
# Written forms

Documents, catalog records, verdicts and reports as free-form values, with every field present.
-/

import FlowGraph.Report

namespace FlowGraph

/-- A text, or null. -/
def Value.ofText? (text : Option String) : Value := (text.map Value.text).getD .null

/-- A list of texts. -/
def Value.ofTexts (texts : List String) : Value := .list (texts.map .text)

namespace Binding

/-- Bindings in row form. -/
def writeRows (bindings : Bindings) : Value := .object (Fields.mapValues toRow bindings)

end Binding

/-- A backend reference with its version, which may be null. -/
def NodeRef.write (ref : NodeRef) : Value :=
  .object [("key", .text ref.key), ("version", (ref.version.map Value.int).getD .null)]

/-- The data of a node. -/
def NodeData.write (data : NodeData) : Value :=
  .object
    [("mode", .text data.mode),
     ("node_ref", (data.ref.map NodeRef.write).getD .null),
     ("config", .object data.config),
     ("input_bindings", Binding.writeRows data.bindings),
     ("on_error", .text data.onError),
     ("join", .text data.join),
     ("enabled", .bool data.enabled),
     ("implemented", .bool data.implemented),
     ("metadata", .object data.metadata)]

/-- A node. -/
def Node.write (node : Node) : Value :=
  .object
    [("id", .text node.id), ("type", .text node.type), ("label", .text node.label),
     ("position", node.positionValue), ("data", node.data.write)]

/-- An edge. -/
def Edge.write (edge : Edge) : Value :=
  .object
    [("id", .text edge.id), ("source", .text edge.source), ("target", .text edge.target),
     ("source_handle", .ofText? edge.handle)]

/-- A document. -/
def Document.write (document : Document) : Value :=
  .object
    [("name", .text document.name),
     ("nodes", .list (document.nodes.map Node.write)),
     ("edges", .list (document.edges.map Edge.write))]

/-- A run input. -/
def RuntimeInput.write (input : RuntimeInput) : Value :=
  .object
    [("input_key", .text input.inputKey), ("label", .text input.label), ("kind", .text input.kind)]

/-- A requirement. -/
def Requirement.write (requirement : Requirement) : Value :=
  .object
    [("label", .text requirement.label),
     ("binding_keys", .ofTexts requirement.bindingKeys),
     ("config_keys", .ofTexts requirement.configKeys),
     ("satisfy_with_incoming", .bool requirement.satisfiedByIncoming),
     ("setup", .bool requirement.setup),
     ("check", .ofText? (requirement.check.map Check.name)),
     ("runtime_input", (requirement.runtimeInput.map RuntimeInput.write).getD .null)]

/-- A binding rule. -/
def BindingRule.write (rule : BindingRule) : Value :=
  .object
    [("target_key", .text rule.targetKey),
     ("binding_keys", .ofTexts rule.bindingKeys),
     ("config_keys", .ofTexts rule.configKeys),
     ("source_output", .ofText? rule.sourceOutput),
     ("run_input_fallback", .text rule.runInputFallback)]

namespace Mode

/-- What a palette shows of a mode. -/
def summary (mode : Mode) : Fields Value :=
  [("value", .text mode.value),
   ("label", .text mode.label),
   ("node_key", .ofText? mode.nodeKey),
   ("implemented", .bool mode.implemented),
   ("description", .text mode.description),
   ("routing", .ofText? (mode.routing.map Routing.name)),
   ("produces", .ofTexts (Order.sortedDistinct (mode.produces.map Capability.name))),
   ("needs", .ofTexts (mode.needs.map Need.name)),
   ("input_targets", .ofTexts mode.expectedTargets),
   ("default_config", .object mode.defaultConfig)]

/-- The semantic outputs whose paths a full record lists. -/
def listedOutputs : List String := ["doc_ids", "text", "content", "records", wholeOutput, "other"]

/-- A mode with all its fields. -/
def write (mode : Mode) : Value :=
  .object
    (mode.summary
      ++ [("output_paths", .object (Fields.mapValues .text mode.outputPaths)),
          ("output_path_for",
            .object (listedOutputs.map fun output => (output, .text (mode.outputPathFor output)))),
          ("binding_rules", .list (mode.bindingRules.map BindingRule.write)),
          ("requirements", .list (mode.requirements.map Requirement.write)),
          ("suggested_next", (mode.suggestedNext.map Value.ofTexts).getD .null)])

end Mode

namespace NodeType

/-- What a palette shows of a node type. -/
def summary (type : NodeType) : Fields Value :=
  [("node_type", .text type.name),
   ("label", .text type.label),
   ("description", .text type.description),
   ("group", .text type.group),
   ("icon", .text type.icon),
   ("color", .text type.color),
   ("builder_only", .bool type.builderOnly),
   ("source_only", .bool type.sourceOnly),
   ("terminal_only", .bool type.terminalOnly),
   ("routing", .text type.routing.name),
   ("default_mode", .text type.defaultMode.value),
   ("modes", .list (type.modes.map fun mode => .object mode.summary))]

/-- A node type with all its fields. -/
def write (type : NodeType) : Value :=
  .object
    (type.summary
      ++ [("annotation_only", .bool type.annotationOnly),
          ("suggested_next", .ofTexts type.suggestedNext)])

end NodeType

/-- The whole palette, by group. -/
def Registry.write (registry : Registry) : Value :=
  .object (Fields.mapValues
    (fun types => .list (types.map fun type => .object type.summary)) registry.byGroup)

/-- A verdict. -/
def Verdict.write (verdict : Verdict) : Value :=
  .object
    [("allow", .bool verdict.allow),
     ("level", .text verdict.level.name),
     ("message", .ofText? verdict.message),
     ("suggestions", .ofTexts verdict.suggestions)]

/-- An issue. -/
def Issue.write (issue : Issue) : Value :=
  .object
    [("node_id", .text issue.nodeId),
     ("label", .text issue.label),
     ("missing", .ofTexts issue.missing),
     ("input_missing", .ofTexts issue.inputMissing),
     ("setup_missing", .ofTexts issue.setupMissing)]

/-- A run input with the slots it would fill. -/
def Readiness.InputRequirement.write (requirement : Readiness.InputRequirement) : Value :=
  .object
    (requirement.input.write.fields
      ++ [("targets",
            .list (requirement.targets.map fun target =>
              .object
                [("node_id", .text target.nodeId), ("target_key", .text target.targetKey)]))])

namespace Report

/-- An edge as seen from its source. -/
def writeOutlet (outlet : Outlet) : Value :=
  .object
    [("edge_id", .text outlet.edgeId),
     ("handle", .ofText? outlet.handle),
     ("target_id", .text outlet.targetId),
     ("target_label", .text outlet.targetLabel)]

/-- The report on a node. -/
def writeNode : NodeReport → Value
  | .unknownType node =>
    .object
      [("id", .text node.id),
       ("label", .text node.label),
       ("node_type", .text node.type),
       ("role", .text "unknown"),
       ("description", .text ("Unknown node type: " ++ node.type))]
  | .known detail =>
    let node := detail.node
    let labels := fun (pick : Issue → List String) =>
      Value.ofTexts ((detail.issue.map pick).getD [])
    .object
      [("id", .text node.id),
       ("step_id", .ofText? detail.stepId),
       ("label", .text (Compile.orText node.label detail.kind.label)),
       ("node_type", .text node.type),
       ("mode", .text node.mode),
       ("node_key", if node.refKey = "" then .null else .text node.refKey),
       ("group", .text detail.kind.group),
       ("role", .text detail.role),
       ("stage", (detail.stage.map Value.int).getD .null),
       ("implemented", .bool node.data.implemented),
       ("enabled", .bool node.data.enabled),
       ("routing", .text (detail.kind.routingFor (some node.mode)).name),
       ("output_handles", .ofTexts detail.handles),
       ("targets", .list (detail.outlets.map writeOutlet)),
       ("bindings", .object (Fields.mapValues Binding.toWire node.bindings)),
       ("missing", labels Issue.missing),
       ("setup_missing", labels Issue.setupMissing),
       ("input_missing", labels Issue.inputMissing)]

/-- The name of a wiring. -/
def wiringName : Wiring → String
  | .dropped => "dropped"
  | .always => "always"
  | .route _ => "route"

/-- A wiring in words. -/
def wiringText : Wiring → String
  | .dropped => "Not part of the compiled definition"
  | .always => "Always taken"
  | .route key => "Taken when the route equals \"" ++ key ++ "\""

/-- The report on an edge. -/
def writeEdge (report : EdgeReport) : Value :=
  .object
    [("id", .text report.edge.id),
     ("source", .text report.edge.source),
     ("source_label", .text report.sourceLabel),
     ("target", .text report.edge.target),
     ("target_label", .text report.targetLabel),
     ("handle", .ofText? report.edge.handle),
     ("wiring", .text (wiringName report.wiring)),
     ("description", .text (wiringText report.wiring))]

/-- The figures of a report. -/
def writeSummary (report : Report) : Value :=
  .object
    [("workflow_name", .text report.document.name),
     ("total_nodes", .int report.document.nodes.length),
     ("executable_nodes", .int report.executableCount),
     ("total_edges", .int report.document.edges.length),
     ("routed_edges", .int report.routedCount),
     ("stage_count", .int report.stageCount),
     ("issue_count", .int report.issues.length),
     ("is_valid", .bool report.isValid),
     ("can_run", .bool report.canRun)]

/-- A report. -/
def write (report : Report) : Value :=
  .object
    [("nodes", .list (report.nodes.map writeNode)),
     ("edges", .list (report.edges.map writeEdge)),
     ("summary", report.writeSummary),
     ("validation",
       .object
         [("valid", .bool report.isValid),
          ("errors", .ofTexts (report.faults.map StructureFault.message))]),
     ("run_blockers", .list (report.blockers.map Issue.write)),
     ("input_requirements", .list (report.inputs.map Readiness.InputRequirement.write)),
     ("definition",
       match report.definition with
       | .ok compiled => compiled.toWire
       | .error _ => .null),
     ("compile_error",
       match report.definition with
       | .ok _ => .null
       | .error failure => .ofText? failure.message?)]

end Report

end FlowGraph
