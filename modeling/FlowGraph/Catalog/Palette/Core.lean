/-
# Core steps

The entry point of every workflow, and the steps that read documents and call the model.
-/

import FlowGraph.Catalog.Palette.Shared

namespace FlowGraph.Palette

/-- The entry point. The `input` of its configuration doubles as the sample run input while a
workflow is designed. -/
def trigger : NodeType where
  name := "trigger"
  label := "Trigger"
  description := "Starts the workflow with manual input/context."
  icon := "▶️"
  color := "#71717a"
  sourceOnly := true
  modes :=
    [{ value := "manual"
       label := "Manual"
       nodeKey := some "manual.trigger"
       description := "Starts the run with the supplied input and context."
       defaultConfig :=
         [("input", .object [("doc_id", .text ""), ("doc_ids", emptyList)]),
          ("context", .object [("source", .text "workflow-builder")])] }]
  suggestedNext := ["Records -> Read Document", "AI -> Extract", "Checks -> Packet Completeness"]

/-- A call of the model: free-form generation, extraction of fields, or classification. -/
def ai : NodeType where
  name := "ai"
  label := "AI"
  description := "Generate, extract, or classify using AI."
  icon := "🤖"
  color := "#8b5cf6"
  modes :=
    [{ value := "generate"
       label := "Generate"
       nodeKey := some "ai.prompt"
       description := "Runs the prompt against the model and returns the response text."
       defaultConfig :=
         [("prompt", .text "You are a helpful assistant."),
          ("response_format", .text "text"),
          ("temperature", .float 0.2),
          ("doc_ids", emptyList)]
       produces := [.text, .content, .docs]
       outputPaths :=
         [("doc_ids", "input_doc_ids"), ("text", "response_text"), ("content", "response_text")]
       bindingRules := [docIdsRule]
       inputTargets := ["doc_ids"]
       requirements :=
         [{ label := "Prompt", bindingKeys := ["prompt"]
            configKeys := ["prompt", "prompt_template"], setup := true }] },
     { value := "extract"
       label := "Extract"
       nodeKey := some "ai.extract"
       description := "Extracts the configured schema fields into records."
       defaultConfig :=
         [("text", .text ""),
          ("doc_ids", emptyList),
          ("schema_fields", texts ["invoice_number", "amount", "date"])]
       produces := [.records, .docs]
       needs := [.textOrDocs]
       outputPaths := [("doc_ids", "input_doc_ids"), ("content", "records")]
       bindingRules := [docIdsRule, textRule]
       inputTargets := ["doc_ids", "text"]
       requirements := [sourceContentRequirement]
       suggestedNext :=
         some ["Checks -> Validate", "Checks -> Reconcile", "Output -> Export CSV"] },
     { value := "classify"
       label := "Classify"
       nodeKey := some "ai.classify"
       description := "Assigns one or more of the configured labels."
       defaultConfig :=
         [("text", .text ""),
          ("doc_ids", emptyList),
          ("labels", texts ["invoice", "agreement", "kyc"]),
          ("threshold", .float 0.5),
          ("multi_label", .bool false)]
       produces := [.text, .docs]
       needs := [.textOrDocs]
       outputPaths := [("doc_ids", "input_doc_ids")]
       bindingRules := [docIdsRule, textRule]
       inputTargets := ["doc_ids", "text"]
       requirements :=
         [{ label := "Labels", bindingKeys := ["labels"], setup := true },
          sourceContentRequirement]
       suggestedNext := some ["Flow -> Router", "Flow -> If / Else", "Human -> Review"] }]

/-- Reads of the document store: listings of folders and single documents. -/
def records : NodeType where
  name := "records"
  label := "Records"
  description := "List folder contents or read document content."
  icon := "📁"
  color := "#0ea5e9"
  modes :=
    [{ value := "list_folder"
       label := "List Folder"
       nodeKey := some "dms.list_folder"
       description := "Lists documents under a folder path."
       defaultConfig :=
         [("folder_path", .text "/"),
          ("recursive", .bool false),
          ("limit", .int 100),
          ("filters",
            .list [.object [("id", .text "filter_1"), ("field", .text ""),
              ("operator", .text "equals"), ("value", .text "")]])]
       produces := [.docs, .records]
       outputPaths := [("records", "docs")]
       inputTargets := ["folder_path"]
       requirements :=
         [{ label := "Folder path", bindingKeys := ["folder_path"]
            runtimeInput :=
              some { inputKey := "folder_path", label := "Folder path", kind := "folder" } }]
       suggestedNext :=
         some ["Checks -> Packet Completeness", "Records -> Read Document", "AI -> Extract"] },
     { value := "read_document"
       label := "Read Document"
       nodeKey := some "dms.read_document"
       description := "Reads document text and metadata."
       defaultConfig :=
         [("doc_id", .text ""),
          ("doc_ids", emptyList),
          ("include_text", .bool true),
          ("include_metadata", .bool true),
          ("max_chars", .int 6000)]
       produces := [.text, .content, .docs]
       needs := [.docs]
       outputPaths := [("doc_ids", "doc_id"), ("text", "text"), ("content", "text")]
       bindingRules := [docIdsRule]
       inputTargets := ["doc_ids"]
       requirements := [docIdsRequirement]
       suggestedNext := some ["AI -> Extract", "AI -> Classify", "Document -> Create"] }]

/-- Searches of the internal knowledge. -/
def retrieval : NodeType where
  name := "retrieval"
  label := "Retrieval"
  description := "Search internal knowledge or folder index."
  icon := "🔍"
  color := "#3b82f6"
  modes :=
    [{ value := "internal"
       label := "Knowledge Search"
       nodeKey := some "search.internal"
       implemented := false
       description := "Searches the internal index for matching passages."
       defaultConfig :=
         [("query", .text ""),
          ("top_k", .int 10),
          ("min_score", .float 0.2),
          ("source_scope", .text "folder")]
       inputTargets := ["query"] }]

/-- The core group. -/
def coreTypes : List NodeType := [trigger, ai, records, retrieval]

end FlowGraph.Palette
