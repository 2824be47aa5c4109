/-
# Reading documents

A document is read from a free-form value, with a report of every field that does not fit. Input
bindings never fail: whatever they hold is read as bindings.
-/

import FlowGraph.Binding.Reading
import FlowGraph.Document.Basic
import FlowGraph.Schema

namespace FlowGraph

open Schema

/-- A backend reference. -/
def NodeRef.reader : Reader NodeRef := record fun fields =>
  NodeRef.mk <$> required fields "key" text <*> withDefault fields "version" (optional int) none

/-- The data of a node. -/
def NodeData.reader : Reader NodeData := record fun fields =>
  NodeData.mk <$> required fields "mode" text
    <*> withDefault fields "node_ref" (optional NodeRef.reader) none
    <*> withDefault fields "config" mapping []
    <*> withDefault fields "input_bindings" (fun value => .ok (Binding.parseAll value)) []
    <*> withDefault fields "on_error" text "fail_fast"
    <*> withDefault fields "join" text "all"
    <*> withDefault fields "enabled" bool true
    <*> withDefault fields "implemented" bool true
    <*> withDefault fields "metadata" mapping []

/-- A place on the canvas. -/
def positionReader : Reader (Fields Float) := mappingOf float

/-- A node. One that is written without an id has the empty one. -/
def Node.reader : Reader Node := record fun fields =>
  Node.mk <$> withDefault fields "id" text ""
    <*> required fields "type" text
    <*> withDefault fields "label" text ""
    <*> withDefault fields "position" (fun value => (positionReader value).map some) none
    <*> required fields "data" NodeData.reader

/-- An end of an edge, which has a short name that wins over the long one. -/
def edgeEnd (fields : Fields Value) (short long : String) : Checked String :=
  match Fields.get? fields short, Fields.get? fields long with
  | none, some value => (text value).under long
  | _, _ => required fields short text

/-- An edge. One that is written without an id has the empty one. -/
def Edge.reader : Reader Edge := record fun fields =>
  Edge.mk <$> withDefault fields "id" text ""
    <*> edgeEnd fields "from" "source"
    <*> edgeEnd fields "to" "target"
    <*> withDefault fields "source_handle" (optional text) none

/-- A document. -/
def Document.reader : Reader Document := record fun fields =>
  Document.mk <$> withDefault fields "name" text "Untitled Workflow"
    <*> withDefault fields "nodes" (tupleOf Node.reader) []
    <*> withDefault fields "edges" (tupleOf Edge.reader) []

end FlowGraph
