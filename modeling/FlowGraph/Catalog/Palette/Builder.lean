/-
# Builder aids

Nodes that live on the canvas only and never reach the backend.
-/

import FlowGraph.Catalog.Palette.Shared

namespace FlowGraph.Palette

/-- A sticky note. It takes no part in the order of steps. -/
def note : NodeType where
  name := "note"
  label := "Sticky Note"
  description := "Builder-only annotation. Not executable."
  group := "builder"
  icon := "📝"
  color := "#f59e0b"
  builderOnly := true
  annotationOnly := true
  modes :=
    [{ value := "note", label := "Note", defaultConfig := [("content", .text "Add your note")] }]

/-- A visual end marker, which may only end a path. -/
def endMarker : NodeType where
  name := "end"
  label := "End Marker"
  description := "Builder-only visual end marker."
  group := "builder"
  icon := "⏹"
  color := "#f43f5e"
  builderOnly := true
  terminalOnly := true
  modes :=
    [{ value := "end", label := "End"
       defaultConfig := [("final_status", .text "completed")] }]

/-- The builder group. -/
def builderTypes : List NodeType := [note, endMarker]

end FlowGraph.Palette
