/-
# Logic steps

Checks, flow control and human tasks. Flow steps are the only ones that fan out by handle.
-/

import FlowGraph.Catalog.Palette.Shared

namespace FlowGraph.Palette

/-- Checks of data and of document packets. -/
def checks : NodeType where
  name := "checks"
  label := "Checks"
  description := "Validate, reconcile, or check packet completeness."
  group := "logic"
  icon := "🛡️"
  color := "#10b981"
  modes :=
    [{ value := "validate"
       label := "Validate"
       nodeKey := some "system.validate"
       description := "Checks required fields and rules against the incoming data."
       defaultConfig :=
         [("required_fields", emptyList),
          ("rules",
            .list [.object [("id", .text "rule_1"), ("field", .text ""),
              ("operator", .text "equals"), ("expected", .text "")]]),
          ("fail_on_warning", .bool false)]
       bindingRules :=
         [{ targetKey := "data", bindingKeys := ["data", "payload"]
            sourceOutput := some wholeOutput, runInputFallback := "$.input" }]
       inputTargets := ["data"]
       requirements :=
         [{ label := "Data to validate", bindingKeys := ["data", "payload"]
            satisfiedByIncoming := true
            runtimeInput := some { inputKey := "data", label := "Data" } }] },
     { value := "reconcile"
       label := "Reconcile"
       nodeKey := some "system.reconcile"
       description := "Compares records by key fields."
       defaultConfig := [("records_source_path", .text ""), ("key_fields", texts ["id"])]
       produces := [.records]
       needs := [.records]
       bindingRules :=
         [{ targetKey := "records", bindingKeys := ["records", "items"]
            sourceOutput := some "records" }]
       inputTargets := ["records"]
       requirements :=
         [{ label := "Records to compare", bindingKeys := ["records", "items"]
            satisfiedByIncoming := true
            runtimeInput := some { inputKey := "records", label := "Records" } }] },
     { value := "packet_check"
       label := "Packet Completeness"
       nodeKey := some "system.packet_check"
       description := "Checks that the document packet has the required types."
       defaultConfig :=
         [("doc_ids", emptyList),
          ("required_patterns", emptyList),
          ("required_types", emptyList),
          ("min_docs", .int 1)]
       produces := [.docs]
       needs := [.docs]
       bindingRules :=
         [{ targetKey := "doc_ids", bindingKeys := ["doc_ids", "doc_id", "documents", "docs"]
            sourceOutput := some "doc_ids" }]
       inputTargets := ["doc_ids"]
       requirements :=
         [{ label := "Document ID(s)"
            bindingKeys := ["doc_ids", "doc_id", "docs", "documents"]
            satisfiedByIncoming := true
            runtimeInput := some docIdsInput }]
       suggestedNext :=
         some ["Human -> Checklist", "Document -> Create", "Output -> Export CSV"] }]

/-- Branching, routing, iteration and merging. Edges that leave a flow step carry the handle they
were drawn from. -/
def flow : NodeType where
  name := "flow"
  label := "Flow"
  description := "Branch, route, loop, or merge flow paths."
  group := "logic"
  icon := "🔀"
  color := "#f97316"
  emitsHandles := true
  modes :=
    [{ value := "if_else"
       label := "If / Else"
       nodeKey := some "flow.branch"
       routing := some .branch
       description := "Evaluates the conditions and follows the true or false path."
       defaultConfig :=
         [("condition_logic", .text "all"),
          ("conditions",
            .list [.object [("id", .text "condition_1"), ("field", .text ""),
              ("operator", .text "equals"), ("value", .text "")]]),
          ("truthy_values", texts ["true", "yes", "1"]),
          ("true_label", .text "True"),
          ("false_label", .text "False")]
       bindingRules := [{ targetKey := "value", sourceOutput := some wholeOutput }]
       inputTargets := ["value"]
       requirements :=
         [{ label := "Condition source (conditions, expression, or incoming value)"
            setup := true, check := some .conditionSource }] },
     { value := "router"
       label := "Router"
       nodeKey := some "flow.route"
       routing := some .route
       description := "Follows the route whose key matches the route value."
       defaultConfig :=
         [("route_key", .text ""),
          ("routes",
            .list
              [.object [("id", .text "route_1"), ("key", .text "finance"),
                ("label", .text "Finance")],
               .object [("id", .text "route_2"), ("key", .text "ops"),
                ("label", .text "Operations")]]),
          ("default_route", .text "default")]
       inputTargets := ["route_key"]
       requirements :=
         [{ label := "Route key", bindingKeys := ["route_key"], satisfiedByIncoming := true
            runtimeInput := some { inputKey := "route_key", label := "Route key" } },
          { label := "At least one route (or set a Default Route)", setup := true
            check := some .routes }] },
     { value := "for_each"
       label := "For Each"
       nodeKey := some "flow.for_each"
       description := "Runs the downstream steps once per item."
       defaultConfig :=
         [("items_path", .text ""),
          ("max_items", .int 100),
          ("continue_on_item_error", .bool false)]
       produces := [.records]
       needs := [.records]
       outputPaths := [("records", "items")]
       inputTargets := ["items"]
       requirements :=
         [{ label := "Items to iterate", bindingKeys := ["items", "records"]
            satisfiedByIncoming := true
            runtimeInput := some { inputKey := "items", label := "Items" } }] },
     { value := "merge_results"
       label := "Merge Results"
       nodeKey := some "flow.aggregate"
       description := "Collects the outputs of the upstream steps."
       defaultConfig := [("mode", .text "array"), ("from_nodes", emptyList)]
       produces := [.records]
       outputPaths := [("records", "items")]
       inputTargets := ["items"]
       requirements :=
         [{ label := "At least one upstream step to merge", setup := true
            check := some .mergeSources }] }]

/-- Who gets a task unless it is assigned. -/
def defaultAssignee : Value := .object [("type", .text "role"), ("value", .text "orgAdmin")]

/-- A mode of the human step. -/
def humanMode (value label description : String) (config : Fields Value)
    (further : List Requirement) : Mode :=
  { value, label, description
    nodeKey := some ("human." ++ value)
    defaultConfig := config
    bindingRules := [{ targetKey := "task_payload", sourceOutput := some wholeOutput }]
    inputTargets := ["task_payload"]
    requirements :=
      [{ label := "Task title", bindingKeys := ["title"], setup := true },
       { label := "Assignee", setup := true, check := some .assignee }] ++ further }

/-- A task for a user or a role. -/
def human : NodeType where
  name := "human"
  label := "Human"
  description := "Create review, approval, checklist, or task assignments."
  group := "logic"
  icon := "🙋"
  color := "#ec4899"
  modes :=
    [humanMode "review" "Review" "Asks the assignee to review the payload."
       [("title", .text "Review required"),
        ("assignee", defaultAssignee),
        ("due_in_hours", .int 24),
        ("reminder_minutes", .int 60),
        ("comment_required", .bool false)] [],
     humanMode "approval" "Approval" "Waits for the assignee to approve or reject."
       [("title", .text "Approval required"),
        ("assignee", defaultAssignee),
        ("due_in_hours", .int 24),
        ("reminder_minutes", .int 60),
        ("comment_required", .bool false)] [],
     humanMode "checklist" "Checklist" "Asks the assignee to tick off each checklist item."
       [("title", .text "Checklist task"),
        ("assignee", defaultAssignee),
        ("checklist_items", texts ["Validate docs", "Confirm fields", "Submit decision"])]
       [{ label := "Checklist items", setup := true, check := some .checklistItems }],
     humanMode "task" "Task" "Creates a free-form task for the assignee."
       [("title", .text "Task"),
        ("assignee", defaultAssignee),
        ("due_in_hours", .int 24),
        ("reminder_minutes", .int 0),
        ("comment_required", .bool false)] []]

/-- The logic group. -/
def logicTypes : List NodeType := [checks, flow, human]

end FlowGraph.Palette
