/-
# Tool steps

Steps that write documents, move files, export records, transform data, and log events.
-/

import FlowGraph.Catalog.Palette.Shared

namespace FlowGraph.Palette

/-- Writes documents. -/
def document : NodeType where
  name := "document"
  label := "Document"
  description := "Create documents."
  group := "tools"
  icon := "📄"
  color := "#6366f1"
  modes :=
    [{ value := "create"
       label := "Create"
       nodeKey := some "dms.create_document"
       description := "Writes a new document into the target folder."
       defaultConfig :=
         [("title", .text "Generated Document"),
          ("filename", .text "generated-document.md"),
          ("folder_path", .text "/"),
          ("content", .text "")]
       produces := [.docs]
       needs := [.content]
       outputPaths := [("doc_ids", "generated_doc_id")]
       bindingRules := [contentRule]
       inputTargets := ["content"]
       requirements :=
         [{ label := "Document content", bindingKeys := contentKeys
            satisfiedByIncoming := true, runtimeInput := some contentInput }] },
     { value := "update"
       label := "Update"
       nodeKey := some "dms.update_document"
       implemented := false
       description := "Replaces the content of an existing document."
       defaultConfig :=
         [("doc_id", .text ""),
          ("title", .text ""),
          ("content", .text ""),
          ("create_new_version", .bool true)]
       produces := [.docs]
       needs := [.docs, .content]
       bindingRules := [docIdsRule, contentRule]
       inputTargets := ["doc_ids", "content"]
       requirements :=
         [docIdsRequirement,
          { label := "Updated content", bindingKeys := contentKeys
            satisfiedByIncoming := true, runtimeInput := some contentInput }] }]

/-- Moves files and sets their metadata. The destination is never taken from an earlier step. -/
def file : NodeType where
  name := "file"
  label := "File"
  description := "Move files or set metadata."
  group := "tools"
  icon := "🗄️"
  color := "#14b8a6"
  modes :=
    [{ value := "move"
       label := "Move"
       nodeKey := some "dms.move_document"
       description := "Moves the documents to the destination folder."
       defaultConfig := [("doc_ids", emptyList), ("dest_path", .text "/processed")]
       produces := [.docs]
       needs := [.docs]
       bindingRules :=
         [docIdsRule, { targetKey := "dest_path", bindingKeys := ["dest_path", "destPath"] }]
       inputTargets := ["doc_ids", "dest_path"]
       requirements :=
         [docIdsRequirement,
          { label := "Destination folder", bindingKeys := ["dest_path", "destPath"]
            runtimeInput :=
              some { inputKey := "dest_path", label := "Destination folder" } }] },
     { value := "set_metadata"
       label := "Set Metadata"
       nodeKey := some "dms.set_metadata"
       description := "Applies tags, keywords, and category to the documents."
       defaultConfig :=
         [("doc_ids", emptyList),
          ("tags", emptyList),
          ("keywords", emptyList),
          ("category", .text ""),
          ("merge", .bool true)]
       produces := [.docs]
       needs := [.docs]
       outputPaths := [("doc_ids", "updated_doc_ids")]
       bindingRules := [docIdsRule]
       inputTargets := ["doc_ids"]
       requirements := [docIdsRequirement] }]

/-- Exports records. -/
def output : NodeType where
  name := "output"
  label := "Output"
  description := "Export records as CSV artifact."
  group := "tools"
  icon := "📤"
  color := "#06b6d4"
  modes :=
    [{ value := "export_csv"
       label := "Export CSV"
       nodeKey := some "artifact.export_csv"
       description := "Writes the incoming rows to a CSV artifact."
       defaultConfig :=
         [("rows_source_path", .text ""),
          ("filename", .text "export.csv"),
          ("columns", emptyList)]
       produces := []
       needs := [.records]
       bindingRules :=
         [{ targetKey := "rows", bindingKeys := ["rows", "records"]
            sourceOutput := some "records" }]
       inputTargets := ["rows"]
       requirements :=
         [{ label := "Rows to export", bindingKeys := ["rows", "records"]
            satisfiedByIncoming := true
            runtimeInput := some { inputKey := "rows", label := "Rows" } }] }]

/-- Delays, transforms, custom expressions and run state. The custom function is also what a
backend key stands for that the catalog does not know. -/
def utilities : NodeType where
  name := "utilities"
  label := "Utilities"
  description := "Add delays, transform data, or manage state."
  group := "tools"
  icon := "🪄"
  color := "#7c3aed"
  modes :=
    [{ value := "delay"
       label := "Wait / Delay"
       nodeKey := some "flow.delay"
       description := "Pauses the run for a duration or until a time."
       defaultConfig :=
         [("duration_ms", .int 0),
          ("until_datetime", .text ""),
          ("timezone", .text "UTC"),
          ("jitter_ms", .int 0)]
       requirements :=
         [{ label := "Wait duration or Target time", setup := true
            check := some .delayTiming }] },
     { value := "transform"
       label := "Transform"
       nodeKey := some "flow.transform"
       description := "Maps fields of the incoming records."
       defaultConfig :=
         [("mode", .text "mapping"),
          ("mappings",
            .list [.object [("id", .text "mapping_1"), ("target", .text ""),
              ("source", .text "")]]),
          ("validate_schema", .bool false)]
       inputTargets := ["records"] },
     { value := "function"
       label := "Custom Function"
       nodeKey := some "flow.function"
       description := "Evaluates a custom expression."
       defaultConfig :=
         [("operation_type", .text "expression"),
          ("expression", .text ""),
          ("timeout_ms", .int 10000)]
       inputTargets := ["input"] },
     { value := "state"
       label := "State Manager"
       nodeKey := some "flow.state"
       description := "Reads or writes a run-scoped state value."
       defaultConfig :=
         [("operation", .text "set"),
          ("key", .text ""),
          ("value", .text ""),
          ("scope", .text "run"),
          ("ttl_minutes", .int 0)]
       inputTargets := ["value"] }]

/-- Writes to the audit timeline. -/
def audit : NodeType where
  name := "audit"
  label := "Audit Log"
  description := "Log custom events to the timeline."
  group := "tools"
  icon := "🗃️"
  color := "#64748b"
  modes :=
    [{ value := "event"
       label := "Log Event"
       nodeKey := some "system.audit_event"
       description := "Appends an event to the audit timeline."
       defaultConfig :=
         [("event_type", .text "workflow.step"),
          ("message", .text ""),
          ("severity", .text "info"),
          ("payload_fields",
            .list [.object [("id", .text "kv_1"), ("key", .text ""), ("value", .text "")]])]
       inputTargets := ["payload"] }]

/-- The tools group. -/
def toolTypes : List NodeType := [document, file, output, utilities, audit]

end FlowGraph.Palette
