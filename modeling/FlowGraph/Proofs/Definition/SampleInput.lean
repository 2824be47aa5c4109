/-
# Sample inputs stay out of definitions

While a workflow is designed, the `input` in the configuration of a trigger holds a sample of the
run input. Compiling clears it. The compiler knows a trigger by the backend key of its step and not
by the type of its node, but along every run of edits a node of the trigger type has a trigger's
key, and nothing else of a step is made of the sample. So two documents that differ in samples only
compile to the same definition, or fail in the same way.

The cleared input keeps the place of the sample among the settings, and goes to their end where
there was no sample. Configurations are mappings, so they are compared through look-ups here; all
else of the two definitions is equal.
-/

import FlowGraph.Proofs.Definition.Compiled
import FlowGraph.Proofs.Definition.Wire

namespace FlowGraph

open Compile

/-! ## What is compared -/

/-- The nodes agree except for the sample that the configuration of a trigger holds, if it holds
one. -/
structure Node.AgreesOffSample (node other : Node) : Prop where
  rest_eq : { node with data := { node.data with config := other.config } } = other
  settings : ∀ key, ¬ (node.type = "trigger" ∧ key = "input") →
    Fields.get? node.config key = Fields.get? other.config key

/-- The documents agree except for the samples in their triggers. -/
structure Document.AgreesOffSamples (document other : Document) : Prop where
  name_eq : document.name = other.name
  edges_eq : document.edges = other.edges
  nodes : List.Forall₂ Node.AgreesOffSample document.nodes other.nodes

/-- The steps agree except that the settings may stand in another order. -/
structure Step.Alike (step other : Step) : Prop where
  rest_eq : { step with config := other.config } = other
  settings : ∀ key, Fields.get? step.config key = Fields.get? other.config key

/-- The definitions agree except that the settings of a step may stand in another order. -/
structure Definition.Alike (definition other : Definition) : Prop where
  steps : List.Forall₂ Step.Alike definition.steps other.steps
  links_eq : definition.links = other.links
  entry_eq : definition.entry = other.entry
  policy_eq : definition.policy = other.policy
  idMap_eq : definition.idMap = other.idMap

/-- Compiling fails for the same reason twice, or gives the same definition twice. -/
inductive Compile.SameOutcome : Except Failure Definition → Except Failure Definition → Prop
  | error (cause : Failure) : SameOutcome (.error cause) (.error cause)
  | ok {definition other : Definition} (halike : definition.Alike other) :
      SameOutcome (.ok definition) (.ok other)

/-! ## One node -/

namespace Node

variable {node other : Node} {type : NodeType} {mode : Mode}

/-- What is told by a node without its configuration is told by both nodes alike. -/
theorem AgreesOffSample.eq_of {α : Type} (hagree : node.AgreesOffSample other) (f : Node → α)
    (hblind : ∀ config,
      f { node with data := { node.data with config := config } } = f node) :
    f node = f other := by
  rw [← hagree.rest_eq]
  exact (hblind other.config).symm

theorem AgreesOffSample.isOf (hagree : node.AgreesOffSample other) (hnode : node.IsOf type mode) :
    other.IsOf type mode := by
  rw [← hagree.rest_eq]
  exact { hnode with data_isOf := hnode.data_isOf.edit _ _ _ }

theorem AgreesOffSample.nodeKey_eq (hagree : node.AgreesOffSample other) :
    nodeKey node = nodeKey other := hagree.eq_of nodeKey fun _ => rfl

theorem IsOf.builderOnly_of_nodeKey (hnode : node.IsOf type mode) (hkey : nodeKey node ≠ "") :
    type.builderOnly = false := by
  by_contra hbuilder
  apply hkey
  rw [nodeKey, hnode.isBuilderOnly_eq, if_pos (by simpa using hbuilder)]

/-- The trigger type admits no incoming edge, and what admits none is saved without its sample. -/
theorem IsOf.sourceOnly_of_trigger (hnode : node.IsOf type mode)
    (htrigger : node.type = "trigger") : type.sourceOnly = true := by
  have hall : ∀ type ∈ Catalog.palette, type.name = "trigger" → type.sourceOnly = true := by
    decide +kernel
  exact hall type hnode.type_mem (hnode.type_eq.symm.trans htrigger)

/-- The saved configurations hold the same settings. -/
theorem AgreesOffSample.get?_savedConfig (hagree : node.AgreesOffSample other)
    (hnode : node.IsOf type mode) (hkey : nodeKey node ≠ "") (key : String) :
    Fields.get? (savedConfig (nodeKey node) node.config) key =
      Fields.get? (savedConfig (nodeKey other) other.config) key := by
  have hexecuted := hnode.builderOnly_of_nodeKey hkey
  rw [Load.savedConfig_eq hnode hexecuted, Load.savedConfig_eq (hagree.isOf hnode) hexecuted]
  cases hsource : type.sourceOnly with
  | true =>
      rw [if_pos rfl, if_pos rfl, Fields.get?_set, Fields.get?_set]
      by_cases hinput : "input" = key
      · rw [if_pos hinput, if_pos hinput]
      · rw [if_neg hinput, if_neg hinput]
        exact hagree.settings key fun hsample => hinput hsample.2.symm
  | false =>
      refine hagree.settings key fun hsample => ?_
      rw [hnode.sourceOnly_of_trigger hsample.1] at hsource
      cases hsource

/-- The nodes become the same step. Of the settings only the assignee shows elsewhere in a step. -/
theorem AgreesOffSample.step_alike (hagree : node.AgreesOffSample other)
    (hnode : node.IsOf type mode) (hkey : nodeKey node ≠ "") (stepId : String) :
    (step node stepId (nodeKey node)).Alike (step other stepId (nodeKey other)) := by
  have hassignee : node.setting "assignee" = other.setting "assignee" := by
    rw [setting, setting, hagree.settings "assignee" (by simp)]
  constructor
  · simp only [step, ← hagree.nodeKey_eq, hassignee]
    rw [← hagree.rest_eq]
    rfl
  · intro key
    simp only [step]
    exact hagree.get?_savedConfig hnode hkey key

end Node

/-! ## All nodes -/

namespace Compile

variable {nodes others : List Node}

/-- The placements stand for nodes that agree, under the same ids. -/
structure Placement.AgreesOffSample (placement other : Placement) : Prop where
  node : placement.node.AgreesOffSample other.node
  canvas_eq : placement.canvas = other.canvas
  stepId_eq : placement.stepId = other.stepId

/-- Nodes are placed one by one, and their configurations play no part in it. -/
theorem forall₂_placements (hagree : List.Forall₂ Node.AgreesOffSample nodes others)
    (used : List String) (index : Nat) :
    List.Forall₂ Placement.AgreesOffSample (placements used index nodes)
      (placements used index others) := by
  induction hagree generalizing used index with
  | nil => exact .nil
  | @cons node other nodes others hnode _ ih =>
      have hpreferred : preferredId index node = preferredId index other :=
        hnode.eq_of (preferredId index) fun _ => rfl
      have hcanvas : canvasId index node = canvasId index other :=
        hnode.eq_of (canvasId index) fun _ => rfl
      rw [placements, placements, ← hnode.nodeKey_eq]
      by_cases hkey : nodeKey node = ""
      · rw [if_pos hkey, if_pos hkey]
        exact ih used (index + 1)
      · rw [if_neg hkey, if_neg hkey, ← hpreferred, ← hcanvas]
        exact .cons ⟨hnode, rfl, rfl⟩ (ih _ (index + 1))

/-- What related elements have in common is the same along two related lists. -/
theorem map_eq_of_forall₂ {α β : Type} {R : α → α → Prop} {f : α → β} {first second : List α}
    (hrel : List.Forall₂ R first second) (hsame : ∀ a b, R a b → f a = f b) :
    first.map f = second.map f := by
  rw [← List.forall₂_eq_eq_eq, List.forall₂_map_left_iff, List.forall₂_map_right_iff]
  exact hrel.imp hsame

/-- The tables of ids are the same. -/
theorem tables_eq (hagree : List.Forall₂ Node.AgreesOffSample nodes others) :
    (Progress.addAll {} 0 nodes).idMap = (Progress.addAll {} 0 others).idMap ∧
      (Progress.addAll {} 0 nodes).keys = (Progress.addAll {} 0 others).keys ∧
      (Progress.addAll {} 0 nodes).used = (Progress.addAll {} 0 others).used := by
  have hplaced : List.Forall₂ Placement.AgreesOffSample (placed nodes) (placed others) :=
    forall₂_placements hagree [] 0
  rw [used_addAll, used_addAll, addAll_empty, addAll_empty]
  refine ⟨congrArg Fields.ofPairs ?_, congrArg Fields.ofPairs ?_, ?_⟩
  · exact map_eq_of_forall₂ hplaced fun _ _ hsame => by rw [hsame.canvas_eq, hsame.stepId_eq]
  · exact map_eq_of_forall₂ hplaced fun _ _ hsame => by
      rw [hsame.canvas_eq, hsame.node.nodeKey_eq]
  · exact map_eq_of_forall₂ hplaced fun _ _ hsame => hsame.stepId_eq

/-- The links of edges are made with the help of the tables alone. -/
theorem links_congr {progress other : Progress} (hidMap : progress.idMap = other.idMap)
    (hkeys : progress.keys = other.keys) (used : List String) (index : Nat) (edges : List Edge) :
    links progress used index edges = links other used index edges := by
  induction edges generalizing used index with
  | nil => rfl
  | cons edge rest ih =>
      have hlink : link? progress used index edge = link? other used index edge := by
        simp only [link?, hidMap, hkeys]
      rw [links, links, hlink]
      cases link? other used index edge with
      | none => exact ih used (index + 1)
      | some link => exact congrArg _ (ih _ (index + 1))

theorem forall₂_steps (hagree : List.Forall₂ Node.AgreesOffSample nodes others)
    (hstocked : ∀ node ∈ nodes, ∃ type mode, node.IsOf type mode) :
    List.Forall₂ Step.Alike (Progress.addAll {} 0 nodes).steps
      (Progress.addAll {} 0 others).steps := by
  rw [addAll_empty, addAll_empty, List.forall₂_map_left_iff, List.forall₂_map_right_iff]
  have hplaced : List.Forall₂ Placement.AgreesOffSample (placed nodes) (placed others) :=
    forall₂_placements hagree [] 0
  refine ((List.forall₂_and_left _ _).mpr ⟨fun _ hmem => hmem, hplaced⟩).imp ?_
  rintro placement other ⟨hmem, hsame⟩
  obtain ⟨hnode, hkey⟩ := mem_of_mem_placed hmem
  obtain ⟨type, mode, hof⟩ := hstocked _ hnode
  rw [Placement.step, Placement.step, ← hsame.stepId_eq]
  exact hsame.node.step_alike hof hkey _

theorem sameOutcome_definition (hagree : List.Forall₂ Node.AgreesOffSample nodes others)
    (hstocked : ∀ node ∈ nodes, ∃ type mode, node.IsOf type mode) (policy : Policy)
    (edges : List Edge) :
    SameOutcome (Compile.definition policy nodes edges)
      (Compile.definition policy others edges) := by
  obtain ⟨hidMap, hkeys, hused⟩ := tables_eq hagree
  have hversions : nodes.map hasHugeVersion = others.map hasHugeVersion :=
    map_eq_of_forall₂ hagree fun _ _ hsame => hsame.eq_of hasHugeVersion fun _ => rfl
  have hhuge : nodes.any hasHugeVersion = others.any hasHugeVersion := by
    simpa using congrArg (List.any · id) hversions
  simp only [Compile.definition, ← hused, ← hhuge, ← links_congr hidMap hkeys]
  split
  · exact .error _
  · split
    · exact .error _
    · exact .ok ⟨forall₂_steps hagree hstocked, rfl, rfl, rfl, hidMap⟩

end Compile

/-! ## Documents -/

namespace Document

variable {document other : Document}

/-- However a document was edited, one that differs from it in nothing but the samples of triggers
compiles to the same definition, or fails for the same reason. -/
theorem samples_stay_out {name : String} {commands : List Command}
    (hedits : ∀ command ∈ commands, command.IsEdit)
    (hdocument : (blank name).performAll commands = document)
    (hagree : document.AgreesOffSamples other) (policy : Policy) :
    SameOutcome (document.compile policy) (other.compile policy) := by
  have hstocked : document.Stocked := hdocument ▸ (stocked_blank name).performAll hedits
  rw [compile, compile, ← hagree.edges_eq]
  exact sameOutcome_definition hagree.nodes hstocked policy document.edges

/-- The document with this sample in its triggers, or with none. -/
def withSample (document : Document) (sample : Option Value) : Document :=
  document.withNodes <| document.nodes.map fun node =>
    if node.type = "trigger" then
      { node with
        data :=
          { node.data with
            config :=
              match sample with
              | some value => Fields.set node.config "input" value
              | none => Fields.erase node.config "input" } }
    else node

theorem agreesOffSamples_withSample (document : Document) (sample : Option Value) :
    document.AgreesOffSamples (document.withSample sample) := by
  refine ⟨rfl, rfl, ?_⟩
  rw [withSample, withNodes, List.forall₂_map_right_iff, List.forall₂_same]
  intro node _
  split
  · next htrigger =>
    refine ⟨rfl, fun key hkey => ?_⟩
    have hother : "input" ≠ key := fun hsame => hkey ⟨htrigger, hsame.symm⟩
    cases sample with
    | some value => exact ((Fields.get?_set ..).trans (if_neg hother)).symm
    | none => exact (Fields.get?_erase_of_ne hother).symm
  · exact ⟨rfl, fun _ _ => rfl⟩

/-- A trigger with a sample in front of a step. -/
def drafted : Document :=
  (blank "Draft").performAll
    [.addNode { type := "ai" }, .connect "trigger_1" "ai_1" none,
     .patchNode
       { nodeId := "trigger_1", config := some [("input", .text "secret"), ("context", .null)] }]

/-- Without the sample the draft compiles to the same definition. -/
theorem samples_stay_out_of_draft :
    drafted.nodes.map (fun node => Fields.keys node.config) =
        [["input", "context"], ["prompt", "response_format", "temperature", "doc_ids"]] ∧
      (drafted.withSample none).nodes.map (fun node => Fields.keys node.config) =
        [["context"], ["prompt", "response_format", "temperature", "doc_ids"]] ∧
      drafted.AgreesOffSamples (drafted.withSample none) ∧
      SameOutcome (drafted.compile {}) ((drafted.withSample none).compile {}) := by
  have hagree := agreesOffSamples_withSample drafted none
  refine ⟨by decide +kernel, by decide +kernel, hagree, ?_⟩
  exact samples_stay_out (by simp [Command.IsEdit]) (drafted.eq_1).symm hagree {}

end Document

end FlowGraph
