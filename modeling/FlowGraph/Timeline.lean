/-
# Timelines

The document being edited, with the documents before it and those that were undone. Undo and redo
move along the timeline; an edit that changes the document cuts off what was undone. At most
`limit` documents are kept to go back to.
-/

import FlowGraph.Edit.Command

namespace FlowGraph

/-- A document with its history, nearest documents first. -/
structure Timeline where
  limit : Int
  present : Document
  past : List Document := []
  future : List Document := []

namespace Timeline

/-- There is something to undo. -/
def canUndo (timeline : Timeline) : Bool := !timeline.past.isEmpty

/-- There is something to redo. -/
def canRedo (timeline : Timeline) : Bool := !timeline.future.isEmpty

/-- Moves on to a new document. -/
def push (timeline : Timeline) (document : Document) : Timeline :=
  { timeline with
    present := document
    past := (timeline.present :: timeline.past).take timeline.limit.toNat
    future := [] }

/-- The timeline after an edit, or nothing when the document stays as it is. -/
def dispatch (timeline : Timeline) (command : Command) : Except Failure (Option Timeline) :=
  (command.apply timeline.present).map fun changed => changed.map timeline.push

/-- Connects two nodes and reports the guard's verdict, warnings included. -/
def connect (timeline : Timeline) (source target : String) (handle : Option String) :
    Except Failure (Verdict × Option Timeline) := do
  let verdict := Connection.validate timeline.present source target
  return (verdict, ← timeline.dispatch (.connect source target handle))

/-- Goes back to the document before this one, if there is one. -/
def undo (timeline : Timeline) : Option Timeline :=
  match timeline.past with
  | [] => none
  | document :: rest =>
    some { timeline with
      present := document, past := rest, future := timeline.present :: timeline.future }

/-- Goes forward to the document that was undone last, if there is one. -/
def redo (timeline : Timeline) : Option Timeline :=
  match timeline.future with
  | [] => none
  | document :: rest =>
    some { timeline with
      present := document, past := timeline.present :: timeline.past, future := rest }

/-- Starts over with another document, without history. -/
def reset (timeline : Timeline) (document : Document) : Timeline :=
  { timeline with present := document, past := [], future := [] }

end Timeline

end FlowGraph
