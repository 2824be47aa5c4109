/-
# Run inputs

Puts the input of a past run back into the triggers of a document, where it serves as sample input.
-/

import FlowGraph.Document.Basic

namespace FlowGraph.RunInput

/-- The document ids that a run was given: the list of ids if there is one, else the single id. -/
def docIds (input : Value) : List String :=
  match input.field "doc_ids" with
  | .list ids => (ids.filter fun id => id.trimmedText ≠ "").map Value.display
  | _ =>
    let single := input.field "doc_id"
    if single.isTruthy then [single.display] else []

/-- The document ids as sample input. -/
def docIdsPatch : List String → Fields Value
  | [] => []
  | first :: rest =>
    [("doc_ids", .list ((first :: rest).map .text)), ("doc_id", .text first)]

/-- The folder that a run was given. -/
def folderPatch (input : Value) : Fields Value :=
  match input.field "folder_path" with
  | .text path => if path = "" then [] else [("folder_path", .text path)]
  | _ => []

/-- What of a run's input is put back. -/
def patch (input : Value) : Fields Value := docIdsPatch (docIds input) ++ folderPatch input

/-- A trigger with the patch in its sample input; any other node stays as it is. -/
def applyTo (patch : Fields Value) (node : Node) : Node :=
  if node.type = "trigger" then
    node.withConfig
      (Fields.set node.config "input"
        (.object (Fields.setAll (node.setting "input").fields patch)))
  else node

/-- The document with a run's input in every trigger; nothing if there is nothing to put back. -/
def apply (document : Document) (input : Value) : Option Document :=
  match patch input with
  | [] => none
  | patch => some (document.withNodes (document.nodes.map (applyTo patch)))

end FlowGraph.RunInput
