/-
# Which step a node becomes

Compiling walks the nodes once and fills three tables side by side: the steps, the step of every
canvas id, and the backend key of every canvas id. All three come from one list, which holds every
executed node with the id that stands for it and the id of its step. This module supplies that
list: its step ids fit the grammar and are distinct whatever the document holds. Canvas ids may
coincide, and then the last node with the id owns it; with distinct trimmed ids every node owns
its own.
-/

import FlowGraph.Document.Structure
import FlowGraph.Proofs.Definition.StepId
import FlowGraph.Proofs.Fields

namespace FlowGraph.Compile

open FlowGraph.Text

/-- An executed node, the id that stands for it among the edges, and the id of its step. -/
structure Placement where
  node : Node
  canvas : String
  stepId : String

/-- The step of a placed node. -/
def Placement.step (placement : Placement) : Step :=
  Compile.step placement.node placement.stepId (nodeKey placement.node)

/-- The executed nodes among nodes of which the first has the given index, when these step ids are
already used. -/
def placements (used : List String) (index : Nat) : List Node → List Placement
  | [] => []
  | node :: rest =>
    if nodeKey node = "" then placements used (index + 1) rest
    else
      let stepId := Naming.unique (preferredId index node) used
      { node, canvas := canvasId index node, stepId }
        :: placements (used ++ [stepId]) (index + 1) rest

/-- The executed nodes of a graph in order. -/
def placed (nodes : List Node) : List Placement := placements [] 0 nodes

/-- The node that an end of an edge stands for: the last one with this canvas id. -/
def owner? (placed : List Placement) (canvas : String) : Option Placement :=
  placed.reverse.find? fun placement => placement.canvas = canvas

variable {used : List String} {index : Nat} {nodes : List Node} {placement : Placement}

/-- The three tables are three readings of the placements. -/
theorem addAll_eq (progress : Progress) (index : Nat) (nodes : List Node) :
    progress.addAll index nodes =
      { steps := progress.steps ++ (placements progress.used index nodes).map Placement.step
        idMap := Fields.setAll progress.idMap ((placements progress.used index nodes).map
          fun placement => (placement.canvas, placement.stepId))
        keys := Fields.setAll progress.keys ((placements progress.used index nodes).map
          fun placement => (placement.canvas, nodeKey placement.node)) } := by
  induction nodes generalizing progress index with
  | nil => simp [Progress.addAll, placements, Fields.setAll]
  | cons node rest ih =>
      rw [Progress.addAll, ih, placements]
      by_cases hkey : nodeKey node = ""
      · simp [Progress.add, hkey]
      · have hused : (progress.add index node).used =
            progress.used ++ [Naming.unique (preferredId index node) progress.used] := by
          simp [Progress.add, hkey, Progress.used, Compile.step]
        rw [hused, if_neg hkey]
        simp [Progress.add, hkey, Fields.setAll, Placement.step]

theorem map_node_placements (used : List String) (index : Nat) (nodes : List Node) :
    (placements used index nodes).map Placement.node =
      nodes.filter fun node => nodeKey node ≠ "" := by
  induction nodes generalizing used index with
  | nil => rfl
  | cons node rest ih =>
      rw [placements]
      by_cases hkey : nodeKey node = ""
      · simp [hkey, ih]
      · simp [hkey, ih]

theorem mem_of_mem_placements (hmem : placement ∈ placements used index nodes) :
    placement.node ∈ nodes ∧ nodeKey placement.node ≠ "" := by
  have hnode := List.mem_map_of_mem (f := Placement.node) hmem
  rw [map_node_placements] at hnode
  simpa using hnode

/-- No step id is given twice, and none that is already used. -/
theorem nodup_append_stepIds (hused : used.Nodup) (index : Nat) (nodes : List Node) :
    (used ++ (placements used index nodes).map Placement.stepId).Nodup := by
  induction nodes generalizing used index with
  | nil => simpa [placements] using hused
  | cons node rest ih =>
      rw [placements]
      by_cases hkey : nodeKey node = ""
      · simpa [hkey] using ih hused (index + 1)
      · have hfresh := Naming.unique_not_mem (preferredId index node) used
        simpa [hkey] using ih (hused.concat hfresh) (index + 1)

theorem isStepId_of_mem_placements (hmem : placement ∈ placements used index nodes) :
    IsStepId placement.stepId := by
  induction nodes generalizing used index with
  | nil => simp [placements] at hmem
  | cons node rest ih =>
      rw [placements] at hmem
      by_cases hkey : nodeKey node = ""
      · exact ih (by simpa [hkey] using hmem)
      · rw [if_neg hkey] at hmem
        rcases List.mem_cons.mp hmem with rfl | hrest
        · exact isStepId_unique (isStepId_preferredId index node) used
        · exact ih hrest

/-- A node whose id is not blank is known by its trimmed id, wherever it stands. -/
theorem canvasId_of_ne_blank {node : Node} (hblank : trim node.id ≠ "") (index : Nat) :
    canvasId index node = trim node.id := if_neg hblank

theorem preferredId_of_ne_blank {node : Node} (hblank : trim node.id ≠ "") (index : Nat) :
    preferredId index node = sanitize (trim node.id) := by
  have hstep : IsStepId (sanitize (trim node.id)) := isStepId_sanitize (by rwa [trim_trim])
  rw [preferredId, canvasId_of_ne_blank hblank, orText, if_neg hstep.ne_empty]

theorem canvas_of_mem_placements (hblank : ∀ node ∈ nodes, trim node.id ≠ "")
    (hmem : placement ∈ placements used index nodes) :
    placement.canvas = trim placement.node.id := by
  induction nodes generalizing used index with
  | nil => simp [placements] at hmem
  | cons node rest ih =>
      obtain ⟨hhead, hrest⟩ := List.forall_mem_cons.mp hblank
      rw [placements] at hmem
      by_cases hkey : nodeKey node = ""
      · exact ih hrest (by simpa [hkey] using hmem)
      · rw [if_neg hkey] at hmem
        rcases List.mem_cons.mp hmem with rfl | htail
        · exact canvasId_of_ne_blank hhead index
        · exact ih hrest htail

/-- Distinct ids that are step ids already are kept. -/
theorem stepId_of_mem_placements (hids : (nodes.map Node.id).Nodup)
    (hblank : ∀ node ∈ nodes, trim node.id ≠ "")
    (hfixed : ∀ node ∈ nodes, nodeKey node ≠ "" → sanitize node.id = node.id)
    (hfresh : ∀ node ∈ nodes, node.id ∉ used)
    (hmem : placement ∈ placements used index nodes) : placement.stepId = placement.node.id := by
  induction nodes generalizing used index with
  | nil => simp [placements] at hmem
  | cons node rest ih =>
      obtain ⟨hblankHead, hblankRest⟩ := List.forall_mem_cons.mp hblank
      obtain ⟨hfixedHead, hfixedRest⟩ := List.forall_mem_cons.mp hfixed
      obtain ⟨hfreshHead, hfreshRest⟩ := List.forall_mem_cons.mp hfresh
      obtain ⟨hnew, hidsRest⟩ := List.nodup_cons.mp hids
      rw [placements] at hmem
      by_cases hkey : nodeKey node = ""
      · exact ih hidsRest hblankRest hfixedRest hfreshRest (by simpa [hkey] using hmem)
      · have hstep : IsStepId node.id := hfixedHead hkey ▸ isStepId_sanitize hblankHead
        have hpreferred : preferredId index node = node.id := by
          rw [preferredId_of_ne_blank hblankHead, hstep.trim_eq, hfixedHead hkey]
        have hunique : Naming.unique (preferredId index node) used = node.id := by
          rw [hpreferred, Naming.unique_eq_self hfreshHead]
        simp only [if_neg hkey, hunique] at hmem
        rcases List.mem_cons.mp hmem with rfl | htail
        · rfl
        · refine ih hidsRest hblankRest hfixedRest (fun other hother => ?_) htail
          have hother' : other.id ≠ node.id := fun hsame =>
            hnew (hsame ▸ List.mem_map_of_mem hother)
          simpa [hother'] using hfreshRest other hother

section Owner

variable {all : List Placement} {canvas : String}

theorem mem_of_owner? (howner : owner? all canvas = some placement) :
    placement ∈ all ∧ placement.canvas = canvas := by
  have hmem := List.mem_of_find?_eq_some howner
  exact ⟨by simpa using hmem, by simpa using List.find?_some howner⟩

/-- With distinct canvas ids every placement owns its own. -/
theorem owner?_eq_some_iff (hcanvas : (all.map Placement.canvas).Nodup) :
    owner? all canvas = some placement ↔ placement ∈ all ∧ placement.canvas = canvas := by
  refine ⟨mem_of_owner?, ?_⟩
  rintro ⟨hmem, rfl⟩
  cases howner : owner? all placement.canvas with
  | none =>
      have habsent := List.find?_eq_none.mp howner placement (by simpa using hmem)
      simp at habsent
  | some other =>
      obtain ⟨hother, hsame⟩ := mem_of_owner? howner
      rw [List.inj_on_of_nodup_map hcanvas hother hmem hsame]

/-- A table by canvas id holds what belongs to the owner. -/
theorem get?_ofPairs_owner {α : Type} (held : Placement → α) (all : List Placement)
    (canvas : String) :
    Fields.get? (Fields.ofPairs (all.map fun placement => (placement.canvas, held placement)))
      canvas = (owner? all canvas).map held := by
  rw [Fields.get?_ofPairs, owner?, ← List.map_reverse]
  induction all.reverse with
  | nil => rfl
  | cons placement rest ih =>
      rw [List.map_cons, Fields.get?_cons, ih, List.find?_cons]
      by_cases hcanvas : placement.canvas = canvas
      · simp [hcanvas]
      · simp [hcanvas]

end Owner

section Placed

theorem mem_of_mem_placed (hmem : placement ∈ placed nodes) :
    placement.node ∈ nodes ∧ nodeKey placement.node ≠ "" :=
  mem_of_mem_placements hmem

theorem exists_placement {node : Node} (hnode : node ∈ nodes) (hkey : nodeKey node ≠ "") :
    ∃ placement ∈ placed nodes, placement.node = node := by
  have hmem : node ∈ (placed nodes).map Placement.node := by
    rw [placed, map_node_placements]
    simp [hnode, hkey]
  exact List.mem_map.mp hmem

theorem nodup_stepIds (nodes : List Node) : ((placed nodes).map Placement.stepId).Nodup := by
  simpa [placed] using nodup_append_stepIds List.nodup_nil 0 nodes

theorem placement_eq_of_stepId_eq {first second : Placement} (hfirst : first ∈ placed nodes)
    (hsecond : second ∈ placed nodes) (hstep : first.stepId = second.stepId) : first = second :=
  List.inj_on_of_nodup_map (nodup_stepIds nodes) hfirst hsecond hstep

/-- Trimmed node ids that are distinct and not blank make canvas ids that are distinct. -/
theorem nodup_canvas (hids : (nodes.map fun node => trim node.id).Nodup)
    (hblank : ∀ node ∈ nodes, trim node.id ≠ "") :
    ((placed nodes).map Placement.canvas).Nodup := by
  have hcanvas : (placed nodes).map Placement.canvas =
      ((placed nodes).map Placement.node).map fun node => trim node.id := by
    rw [List.map_map]
    exact List.map_congr_left fun placement hmem => canvas_of_mem_placements hblank hmem
  rw [hcanvas, placed, map_node_placements]
  exact hids.sublist (List.filter_sublist.map _)

/-- With trimmed ids distinct and not blank, an end of an edge stands for the node of that id. -/
theorem owner?_trim_eq_some_iff (hids : (nodes.map fun node => trim node.id).Nodup)
    (hblank : ∀ node ∈ nodes, trim node.id ≠ "") {id : String} :
    owner? (placed nodes) (trim id) = some placement ↔
      placement ∈ placed nodes ∧ trim placement.node.id = trim id := by
  rw [owner?_eq_some_iff (nodup_canvas hids hblank)]
  refine and_congr_right fun hmem => ?_
  rw [canvas_of_mem_placements hblank hmem]

end Placed

end FlowGraph.Compile
