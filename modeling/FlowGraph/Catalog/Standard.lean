/-
# The standard catalog

The registry of every node type of the palette, with the readiness rules of the backend keys that
have no entry of their own there. These keys load as the generic function step but ask for inputs
of their own.
-/

import FlowGraph.Catalog.Palette.Builder
import FlowGraph.Catalog.Palette.Core
import FlowGraph.Catalog.Palette.Logic
import FlowGraph.Catalog.Palette.Tools
import FlowGraph.Catalog.Registry

namespace FlowGraph.Catalog

/-- The node types of the palette in order. -/
def palette : List NodeType :=
  Palette.coreTypes ++ Palette.toolTypes ++ Palette.logicTypes ++ Palette.builderTypes

/-- Documents about the subject of a report. -/
def subjectDocuments (configKeys : List String) : Requirement :=
  { label := "Subject documents", bindingKeys := ["doc_ids", "subject_packet_doc_ids"], configKeys
    satisfiedByIncoming := true
    runtimeInput :=
      some { inputKey := "doc_ids", label := "Project Documents", kind := "docs" } }

/-- Readiness rules of backend keys outside the palette. -/
def specializedRules : List (String × List Requirement) :=
  [("ai.parse_ruleset",
    [{ label := "Ruleset document", bindingKeys := ["ruleset_doc_id"]
       configKeys := ["ruleset_doc_id", "rulesetDocId"]
       runtimeInput :=
         some { inputKey := "ruleset_doc_id", label := "Ruleset Document", kind := "docs" } }]),
   ("ai.extract_facts", [subjectDocuments ["doc_ids", "doc_id", "subject_packet_doc_ids"]]),
   ("system.evaluate", [subjectDocuments ["doc_ids", "subject_packet_doc_ids"]]),
   ("ai.generate_report", [subjectDocuments ["doc_ids", "subject_packet_doc_ids"]])]

/-- The standard registry. -/
def standard : Registry :=
  specializedRules.foldl (fun registry rule => registry.specialize rule.1 rule.2)
    (palette.foldl Registry.add {})

/-- The node type of this name in the standard catalog. -/
def type? (name : String) : Option NodeType := standard.type? name

/-- The mode of this name, or the default mode of the type, in the standard catalog. -/
def mode? (type mode : String) : Option Mode := standard.lookupMode? type (some mode)

end FlowGraph.Catalog

namespace FlowGraph.Node

/-- The node's type, if the catalog knows it. -/
def kind? (node : Node) : Option NodeType := Catalog.type? node.type

/-- The node's mode, if the catalog knows its type. -/
def modeRecord? (node : Node) : Option Mode := Catalog.mode? node.type node.mode

/-- The node admits no incoming edge. -/
def isSourceOnly (node : Node) : Bool := node.kind?.any NodeType.sourceOnly

/-- The node admits no outgoing edge. -/
def isTerminalOnly (node : Node) : Bool := node.kind?.any NodeType.terminalOnly

/-- The node is never executed. -/
def isBuilderOnly (node : Node) : Bool := node.kind?.any NodeType.builderOnly

/-- The node takes no part in the order of steps. -/
def isAnnotation (node : Node) : Bool := node.kind?.any NodeType.annotationOnly

end FlowGraph.Node
