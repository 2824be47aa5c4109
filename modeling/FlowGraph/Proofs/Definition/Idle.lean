/-
# Notes leave no trace

Nodes that are not executed, such as notes and end markers, have no step, but the compiler counts
them: indices run over all nodes and all edges, and ids in use and the table of ids are carried past
them. None of it shows where ids are not blank, because an index is only read to make up an id. So
the definition is that of the document without such nodes and without the edges that touch them.
-/

import FlowGraph.Proofs.Definition.Compiled

namespace FlowGraph

open FlowGraph.Text

namespace Compile

variable {nodes : List Node} {edges : List Edge}

/-! ## Steps -/

/-- Nodes that are not executed do not move the others. -/
theorem placements_filter (hblank : ∀ node ∈ nodes, trim node.id ≠ "") (used : List String)
    (first second : Nat) :
    placements used first (nodes.filter fun node => nodeKey node ≠ "") =
      placements used second nodes := by
  induction nodes generalizing used first second with
  | nil => rfl
  | cons node rest ih =>
      obtain ⟨hhead, hrest⟩ := List.forall_mem_cons.mp hblank
      rw [List.filter_cons]
      by_cases hkey : nodeKey node = ""
      · rw [placements, if_pos hkey, if_neg (by simpa using hkey)]
        exact ih hrest used first (second + 1)
      · rw [if_pos (by simpa using hkey), placements, placements, if_neg hkey, if_neg hkey,
          preferredId_of_ne_blank hhead, preferredId_of_ne_blank hhead,
          canvasId_of_ne_blank hhead, canvasId_of_ne_blank hhead]
        exact congrArg _ (ih hrest _ (first + 1) (second + 1))

theorem addAll_filter (hblank : ∀ node ∈ nodes, trim node.id ≠ "") :
    Progress.addAll {} 0 (nodes.filter fun node => nodeKey node ≠ "") =
      Progress.addAll {} 0 nodes := by
  rw [addAll_empty, addAll_empty, placed, placed, placements_filter hblank [] 0 0]

/-- Only executed nodes can have a version that is too large. -/
theorem any_hasHugeVersion_filter (nodes : List Node) :
    (nodes.filter fun node => nodeKey node ≠ "").any hasHugeVersion = nodes.any hasHugeVersion := by
  rw [List.any_filter]
  congr 1
  funext node
  by_cases hkey : nodeKey node = "" <;> simp [hasHugeVersion, hkey]

/-! ## Links -/

/-- The index of an edge whose id is not blank does not matter. -/
theorem link?_of_ne_blank {edge : Edge} (hblank : trim edge.id ≠ "") (progress : Progress)
    (used : List String) (first second : Nat) :
    link? progress used first edge = link? progress used second edge := by
  have hid : edge.id ≠ "" := by
    intro hempty
    exact hblank (by rw [hempty]; rfl)
  have hpreferred (made other : String) : orText (sanitize (orText edge.id made)) other =
      sanitize edge.id := by
    rw [orText.eq_def edge.id, if_neg hid, orText, if_neg (isStepId_sanitize hblank).ne_empty]
  simp only [link?, hpreferred]

/-- Edges that become no link do not move the others. -/
theorem links_filter {progress : Progress} {keep : Edge → Bool}
    (hblank : ∀ edge ∈ edges, trim edge.id ≠ "")
    (hdropped : ∀ edge ∈ edges, keep edge = false →
      ∀ used index, link? progress used index edge = none)
    (used : List String) (first second : Nat) :
    links progress used first (edges.filter keep) = links progress used second edges := by
  induction edges generalizing used first second with
  | nil => rfl
  | cons edge rest ih =>
      obtain ⟨hhead, hrest⟩ := List.forall_mem_cons.mp hblank
      obtain ⟨hnone, hdroppedRest⟩ := List.forall_mem_cons.mp hdropped
      rw [List.filter_cons]
      cases hkeep : keep edge with
      | false =>
          rw [links, hnone hkeep used second]
          exact ih hrest hdroppedRest used first (second + 1)
      | true =>
          rw [if_pos rfl, links, links, link?_of_ne_blank hhead progress used first second]
          cases link? progress used second edge with
          | none => exact ih hrest hdroppedRest used (first + 1) (second + 1)
          | some link => exact congrArg _ (ih hrest hdroppedRest _ (first + 1) (second + 1))

/-- An edge that joins no two steps becomes no link. -/
theorem link?_eq_none {edge : Edge} (hjoined : joined? (placed nodes) edge = none)
    (used : List String) (index : Nat) :
    link? (Progress.addAll {} 0 nodes) used index edge = none := by
  have hends := ends_link? (congrArg Progress.idMap (addAll_empty nodes)) used index edge
  rwa [hjoined, Option.map_none, Option.map_eq_none_iff] at hends

/-- Nodes that are not executed, and edges that join no two steps, can be left out. -/
theorem definition_filter {keep : Edge → Bool} (policy : Policy)
    (hnodes : ∀ node ∈ nodes, trim node.id ≠ "") (hedges : ∀ edge ∈ edges, trim edge.id ≠ "")
    (hdropped : ∀ edge ∈ edges, keep edge = false → joined? (placed nodes) edge = none) :
    Compile.definition policy (nodes.filter fun node => nodeKey node ≠ "") (edges.filter keep) =
      Compile.definition policy nodes edges := by
  have hlinks := links_filter hedges
    (fun edge hedge hkeep => link?_eq_none (hdropped edge hedge hkeep)) [] 0 0
  simp only [Compile.definition, addAll_filter hnodes, any_hasHugeVersion_filter, hlinks]

/-- An end that is the id of a node that is not executed stands for no step. -/
theorem owner?_of_idle (hids : (nodes.map fun node => trim node.id).Nodup)
    (hblank : ∀ node ∈ nodes, trim node.id ≠ "") {node : Node} (hnode : node ∈ nodes)
    (hidle : nodeKey node = "") : owner? (placed nodes) (trim node.id) = none := by
  rw [Option.eq_none_iff_forall_ne_some]
  intro placement howner
  obtain ⟨hmem, hsame⟩ := (owner?_trim_eq_some_iff hids hblank).mp howner
  obtain ⟨hplaced, hkey⟩ := mem_of_mem_placed hmem
  exact hkey (List.inj_on_of_nodup_map hids hplaced hnode hsame ▸ hidle)

end Compile

/-! ## Documents -/

namespace Document

/-- The edge enters or leaves a node that is not executed. -/
def touchesIdle (document : Document) (edge : Edge) : Bool :=
  document.nodes.any fun node =>
    Compile.nodeKey node = "" && (edge.source = node.id || edge.target = node.id)

/-- The document without the nodes that are not executed and the edges that touch them. -/
def withoutIdle (document : Document) : Document where
  name := document.name
  nodes := document.nodes.filter fun node => Compile.nodeKey node ≠ ""
  edges := document.edges.filter fun edge => !document.touchesIdle edge

variable {document : Document}

theorem joined?_of_touchesIdle (hids : (document.nodes.map fun node => trim node.id).Nodup)
    (hblank : ∀ node ∈ document.nodes, trim node.id ≠ "") {edge : Edge}
    (htouches : document.touchesIdle edge = true) :
    Compile.joined? (Compile.placed document.nodes) edge = none := by
  obtain ⟨node, hnode, htouch⟩ := List.any_eq_true.mp htouches
  simp only [Bool.and_eq_true, Bool.or_eq_true, decide_eq_true_eq] at htouch
  obtain ⟨hidle, hsource | htarget⟩ := htouch
  · rw [Compile.joined?, hsource, Compile.owner?_of_idle hids hblank hnode hidle]
  · rw [Compile.joined?, htarget, Compile.owner?_of_idle hids hblank hnode hidle]
    cases Compile.owner? (Compile.placed document.nodes) (trim edge.source) <;> rfl

/-- With ids that are not blank, and trimmed node ids that are distinct, a document compiles to the
same definition, or fails in the same way, without the nodes that are not executed. -/
theorem compile_withoutIdle (hids : (document.nodes.map fun node => trim node.id).Nodup)
    (hnodes : ∀ node ∈ document.nodes, trim node.id ≠ "")
    (hedges : ∀ edge ∈ document.edges, trim edge.id ≠ "") (policy : Policy) :
    document.withoutIdle.compile policy = document.compile policy := by
  apply Compile.definition_filter policy hnodes hedges
  intro edge _ htouches
  exact joined?_of_touchesIdle hids hnodes (by simpa using htouches)

/-- Two steps with a note in front of them and another one between them, on their only path. -/
def noted : Document where
  nodes := [{ id := "note", type := "note", data := { mode := "note" } },
    { id := "first", type := "ai", data := { mode := "generate" } },
    { id := "remark", type := "note", data := { mode := "note" } },
    { id := "second", type := "ai", data := { mode := "generate" } }]
  edges := [{ id := "e1", source := "first", target := "remark" },
    { id := "e2", source := "remark", target := "second" }]

/-- The path through the note is no path, with the note and without: the two steps are chained. -/
theorem noted_compiles_without_notes :
    noted.withoutIdle.edges = [] ∧ noted.withoutIdle.compile {} = noted.compile {} ∧
      (noted.compile {}).toOption.map Definition.links =
        some [{ id := "first_to_second_1", source := "first", target := "second",
                condition := .always }] := by
  refine ⟨by decide +kernel, compile_withoutIdle (by decide) (by decide) (by decide) {}, ?_⟩
  decide +kernel

end Document

end FlowGraph
