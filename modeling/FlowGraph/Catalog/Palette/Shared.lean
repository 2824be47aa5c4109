/-
# Shared declarations

Keys, rules and requirements that several node types of the palette declare.
-/

import FlowGraph.Catalog.Basic

namespace FlowGraph.Palette

/-- The keys under which document ids are held. -/
def docIdsKeys : List String := ["doc_ids", "doc_id"]

/-- The keys under which content is held. -/
def contentKeys : List String := ["content", "text", "markdown"]

/-- Document ids as run input. -/
def docIdsInput : RuntimeInput := { inputKey := "doc_ids", label := "Document IDs", kind := "docs" }

/-- Content as run input. -/
def contentInput : RuntimeInput := { inputKey := "content", label := "Content" }

/-- Fills the document ids from an earlier step. -/
def docIdsRule : BindingRule :=
  { targetKey := "doc_ids", bindingKeys := docIdsKeys, sourceOutput := some "doc_ids" }

/-- Fills the content from an earlier step. -/
def contentRule : BindingRule :=
  { targetKey := "content", bindingKeys := contentKeys, sourceOutput := some "content" }

/-- Fills the text from an earlier step. -/
def textRule : BindingRule := { targetKey := "text", sourceOutput := some "text" }

/-- Documents to work on. -/
def docIdsRequirement : Requirement :=
  { label := "Document ID(s)", bindingKeys := docIdsKeys, satisfiedByIncoming := true
    runtimeInput := some docIdsInput }

/-- Text or documents to work on. -/
def sourceContentRequirement : Requirement :=
  { label := "Source content (text or document IDs)", bindingKeys := "text" :: docIdsKeys
    satisfiedByIncoming := true
    runtimeInput := some { inputKey := "text", label := "Source text" } }

/-- The list of texts as a free-form value. -/
def texts (items : List String) : Value := .list (items.map .text)

/-- The empty list as a free-form value. -/
def emptyList : Value := .list []

end FlowGraph.Palette
