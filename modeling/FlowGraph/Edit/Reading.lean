/-
# Reading commands

A command is read from its name and its fields. Fields that do not fit are reported together, as
for a document; a name that stands for no command is refused.
-/

import FlowGraph.Edit.Command

namespace FlowGraph.Command

open Schema

/-- A new node. -/
def newNodeReader (fields : Fields Value) : Checked NewNode :=
  NewNode.mk <$> required fields "type" text
    <*> withDefault fields "mode" (optional text) none
    <*> withDefault fields "position" (optional positionReader) none
    <*> withDefault fields "label" (optional text) none
    <*> withDefault fields "node_id" (optional text) none

/-- New values for the fields of a node. -/
def patchReader (fields : Fields Value) : Checked Patch :=
  Patch.mk <$> required fields "node_id" text
    <*> withDefault fields "label" (optional text) none
    <*> withDefault fields "mode" (optional text) none
    <*> withDefault fields "config" (optional mapping) none
    <*> withDefault fields "input_bindings" (optional mapping) none
    <*> withDefault fields "enabled" (optional bool) none
    <*> withDefault fields "position" (optional positionReader) none

/-- The reading of a command's fields, by the name of the command. -/
def reader? : String → Option (Fields Value → Checked Command)
  | "AddNode" => some fun fields => (newNodeReader fields).map addNode
  | "DuplicateNode" => some fun fields => (required fields "node_id" text).map duplicateNode
  | "PatchNode" => some fun fields => (patchReader fields).map patchNode
  | "DeleteNode" => some fun fields => (required fields "node_id" text).map deleteNode
  | "Connect" => some fun fields =>
    connect <$> required fields "source" text <*> required fields "target" text
      <*> withDefault fields "handle" (optional text) none
  | "Disconnect" => some fun fields => (required fields "edge_id" text).map disconnect
  | "AutoMap" => some fun fields =>
    autoMap <$> withDefault fields "node_id" (optional text) none
      <*> withDefault fields "force" bool false
  | "RenameWorkflow" => some fun fields => (required fields "name" text).map rename
  | "ReplaceDocument" => some fun fields =>
    (required fields "document" Document.reader).map replace
  | _ => none

/-- Reads a command. -/
def read (name : String) (fields : Fields Value) : Except Failure Command :=
  match reader? name with
  | none => .error .unsuitable
  | some reader =>
    match reader fields with
    | .ok command => .ok command
    | .bad faults => .error (.invalid faults)

end FlowGraph.Command
