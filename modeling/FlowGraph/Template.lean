/-
# Templates

Ready-made documents to start from. A template lists nodes and edges, and its document is built
through the same commands as any other edit: edges pass the guard, inputs are mapped as the edges
are drawn, and the places on the canvas come from the automatic layout.
-/

import FlowGraph.Edit.Command
import FlowGraph.Layout

namespace FlowGraph

/-- A node of a template: the settings are stored on top of its mode's own configuration. -/
structure TemplateNode where
  type : String
  id : String
  label : String
  mode : Option String := none
  settings : Fields Value := []

/-- An edge of a template. -/
structure TemplateEdge where
  source : String
  target : String
  handle : Option String := none

/-- A template. -/
structure Template where
  name : String
  title : String
  description : String
  nodes : List TemplateNode
  edges : List TemplateEdge

namespace Template

/-- Adds a node of a template. -/
def addNode (document : Document) (node : TemplateNode) : Except Failure Document := do
  let added ← Command.run document
    (.addNode
      { type := node.type, mode := node.mode, nodeId := some node.id, label := some node.label })
  match node.settings with
  | [] => return added
  | settings =>
    let config := (← added.requireNode node.id).config
    Command.run added
      (.patchNode { nodeId := node.id, config := some (Fields.setAll config settings) })

/-- Draws an edge of a template. -/
def addEdge (document : Document) (edge : TemplateEdge) : Except Failure Document :=
  Command.run document (.connect edge.source edge.target edge.handle)

/-- The document of a template. -/
def build (template : Template) : Except Failure Document := do
  let stocked ← template.nodes.foldlM addNode { name := template.title }
  let drawn ← template.edges.foldlM addEdge stocked
  return drawn.withNodes (Layout.place Layout.standardSpacing drawn.nodes drawn.edges)

/-- A folder of invoices becomes validated rows of a table. -/
def invoiceIntake : Template :=
  { name := "invoice_intake"
    title := "Invoice Intake"
    description := "Folder of invoices → extracted, validated, exported rows."
    nodes :=
      [{ type := "trigger", id := "trigger_1", label := "Trigger" },
       { type := "records", id := "list_invoices", label := "List Invoices"
         mode := some "list_folder", settings := [("folder_path", .text "/invoices")] },
       { type := "ai", id := "extract_fields", label := "Extract Fields", mode := some "extract" },
       { type := "checks", id := "validate_fields", label := "Validate Fields"
         mode := some "validate"
         settings := [("required_fields", .list [.text "invoice_number", .text "amount"])] },
       { type := "output", id := "export_rows", label := "Export Rows", mode := some "export_csv"
         settings := [("filename", .text "invoices.csv")] }]
    edges :=
      [{ source := "trigger_1", target := "list_invoices" },
       { source := "list_invoices", target := "extract_fields" },
       { source := "extract_fields", target := "validate_fields" },
       { source := "validate_fields", target := "export_rows" }] }

/-- Documents are classified, and each class goes to its own task. -/
def documentTriage : Template :=
  { name := "document_triage"
    title := "Document Triage"
    description := "Classify incoming documents and route them to the right team."
    nodes :=
      [{ type := "trigger", id := "trigger_1", label := "Trigger" },
       { type := "records", id := "read_doc", label := "Read Document"
         mode := some "read_document" },
       { type := "ai", id := "classify_doc", label := "Classify Document"
         mode := some "classify" },
       { type := "flow", id := "route_doc", label := "Route by Type", mode := some "router" },
       { type := "human", id := "finance_approval", label := "Finance Approval"
         mode := some "approval", settings := [("title", .text "Approve finance document")] },
       { type := "human", id := "ops_review", label := "Ops Review", mode := some "review"
         settings := [("title", .text "Review operations document")] },
       { type := "audit", id := "log_unrouted", label := "Log Unrouted", mode := some "event"
         settings := [("message", .text "Document had no matching route")] }]
    edges :=
      [{ source := "trigger_1", target := "read_doc" },
       { source := "read_doc", target := "classify_doc" },
       { source := "classify_doc", target := "route_doc" },
       { source := "route_doc", target := "finance_approval", handle := some "finance" },
       { source := "route_doc", target := "ops_review", handle := some "ops" },
       { source := "route_doc", target := "log_unrouted", handle := some "default" }] }

/-- The documents of a run are summarized in a new document. -/
def summary : Template :=
  { name := "summary"
    title := "Summarize Documents"
    description := "Generate a summary document from the run's documents."
    nodes :=
      [{ type := "trigger", id := "trigger_1", label := "Trigger" },
       { type := "ai", id := "summarize", label := "Summarize", mode := some "generate"
         settings :=
           [("prompt", .text "Summarize the attached documents in plain language.")] },
       { type := "document", id := "save_summary", label := "Save Summary", mode := some "create"
         settings := [("title", .text "Summary"), ("filename", .text "summary.md")] }]
    edges :=
      [{ source := "trigger_1", target := "summarize" },
       { source := "summarize", target := "save_summary" }] }

/-- All templates in order. -/
def all : List Template := [invoiceIntake, documentTriage, summary]

/-- The document of the template of this name. -/
def create (name : String) : Except Failure Document :=
  match all.find? fun template => template.name = name with
  | some template => template.build
  | none => .error (.unknownTemplate name)

/-- What a gallery shows of a template. -/
structure Card where
  name : String
  title : String
  description : String
  nodeCount : Nat
  edgeCount : Nat

/-- The card of a template, with the size of its document. -/
def card (template : Template) : Except Failure Card := do
  let document ← template.build
  return {
    name := template.name
    title := document.name
    description := template.description
    nodeCount := document.nodes.length
    edgeCount := document.edges.length }

/-- The cards of all templates. -/
def gallery : Except Failure (List Card) := all.mapM card

end Template

end FlowGraph
