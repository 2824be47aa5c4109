/-
# Source-only nodes in a compiled definition

A source-only node, such as a trigger, is meant to start a run. Its step does so exactly when no
link enters it, and links come about in two ways. Edges never enter a source-only node, so their
links spare its step as long as no two nodes share an id after trimming. The chain that stands in
for missing edges does not ask what it runs through: it enters every step but the first.
-/

import FlowGraph.Proofs.Definition.Flow

namespace FlowGraph

open Compile Arrows Text

namespace Compile

/-- Every source-only node starts a run: no link enters its step, which is an entry step. -/
def SourcesStart (nodes : List Node) (definition : Definition) : Prop :=
  ∀ placement ∈ placed nodes, placement.node.isSourceOnly = true →
    (∀ link ∈ definition.links, link.target ≠ placement.stepId) ∧
      placement.stepId ∈ definition.entry

/-- What becomes links spares source-only nodes: the edges that join executed nodes, or else the
chain through all of them. -/
def LinksSpareSources (nodes : List Node) (edges : List Edge) : Prop :=
  if joins nodes edges = [] then
    ∀ placement ∈ (placed nodes).tail, placement.node.isSourceOnly = false
  else ∀ pair ∈ joins nodes edges, pair.2.node.isSourceOnly = false

variable {nodes : List Node} {edges : List Edge} {definition : Definition}

/-- The steps that links enter: the second one of each pair that is joined, or without any pair
every step but the first. -/
theorem Compiled.exists_leads_iff (hcompiled : Compiled nodes edges definition)
    {placement : Placement} (hplaced : placement ∈ placed nodes) :
    (∃ before, Leads definition.arrows before placement.stepId) ↔
      if joins nodes edges = [] then placement ∈ (placed nodes).tail
      else ∃ pair ∈ joins nodes edges, pair.2 = placement := by
  rw [hcompiled.arrows_eq]
  by_cases hnone : joins nodes edges = []
  · rw [if_pos hnone, if_pos hnone, leads_zip_tail_iff, hcompiled.stepIds_eq, ← List.map_tail]
    constructor
    · intro hmem
      obtain ⟨other, hother, hstep⟩ := List.mem_map.mp hmem
      rwa [← placement_eq_of_stepId_eq (List.mem_of_mem_tail hother) hplaced hstep]
    · exact List.mem_map_of_mem
  · rw [if_neg hnone, if_neg hnone]
    constructor
    · rintro ⟨before, hleads⟩
      obtain ⟨pair, hpair, heq⟩ := List.mem_map.mp hleads
      have hstep : pair.2.stepId = placement.stepId := congrArg Prod.snd heq
      exact ⟨pair, hpair,
        placement_eq_of_stepId_eq (mem_placed_of_mem_joins hpair).2 hplaced hstep⟩
    · rintro ⟨pair, hpair, rfl⟩
      exact ⟨pair.1.stepId, List.mem_map.mpr ⟨pair, hpair, rfl⟩⟩

/-- Source-only nodes start a run exactly when what becomes links spares them. -/
theorem Compiled.sourcesStart_iff (hcompiled : Compiled nodes edges definition) :
    SourcesStart nodes definition ↔ LinksSpareSources nodes edges := by
  have hentered (placement : Placement) (hplaced : placement ∈ placed nodes) :
      (∀ link ∈ definition.links, link.target ≠ placement.stepId) ↔
        ¬ if joins nodes edges = [] then placement ∈ (placed nodes).tail
          else ∃ pair ∈ joins nodes edges, pair.2 = placement := by
    rw [Definition.forall_link_target_iff, ← hcompiled.exists_leads_iff hplaced, not_exists]
  -- a step that no link enters is a root, and then the entry steps are the roots
  have hstart (placement : Placement) (hplaced : placement ∈ placed nodes)
      (hfree : ∀ link ∈ definition.links, link.target ≠ placement.stepId) :
      placement.stepId ∈ definition.entry := by
    have hroot : placement.stepId ∈ definition.roots := by
      refine Definition.mem_roots_iff.mpr ⟨?_, Definition.forall_link_target_iff.mp hfree⟩
      rw [hcompiled.stepIds_eq]
      exact List.mem_map_of_mem hplaced
    rwa [hcompiled.entry_eq_roots (List.ne_nil_of_mem hroot)]
  have hspare : SourcesStart nodes definition ↔ ∀ placement ∈ placed nodes,
      placement.node.isSourceOnly = true →
        ∀ link ∈ definition.links, link.target ≠ placement.stepId :=
    forall₂_congr fun placement hplaced => imp_congr_right fun _ =>
      and_iff_left_of_imp (hstart placement hplaced)
  rw [hspare, LinksSpareSources]
  by_cases hnone : joins nodes edges = []
  · simp only [if_pos hnone] at hentered ⊢
    constructor
    · intro hfree placement htail
      have hplaced := List.mem_of_mem_tail htail
      by_contra hsource
      exact (hentered placement hplaced).mp
        (hfree placement hplaced (by simpa using hsource)) htail
    · intro hchain placement hplaced hsource
      refine (hentered placement hplaced).mpr fun htail => ?_
      simp [hchain placement htail] at hsource
  · simp only [if_neg hnone] at hentered ⊢
    constructor
    · intro hfree pair hpair
      have hplaced := (mem_placed_of_mem_joins hpair).2
      by_contra hsource
      exact (hentered pair.2 hplaced).mp
        (hfree pair.2 hplaced (by simpa using hsource)) ⟨pair, hpair, rfl⟩
    · rintro hjoins placement hplaced hsource
      refine (hentered placement hplaced).mpr ?_
      rintro ⟨pair, hpair, rfl⟩
      simp [hjoins pair hpair] at hsource

end Compile

namespace Document

/-- In a sound document whose trimmed ids are distinct and not blank, no edge that joins executed
nodes enters a source-only one. -/
theorem Sound.joins_spare_sources {document : Document} (hsound : document.Sound)
    (hids : (document.nodes.map fun node => trim node.id).Nodup)
    (hblank : ∀ node ∈ document.nodes, trim node.id ≠ "") :
    ∀ pair ∈ joins document.nodes document.edges, pair.2.node.isSourceOnly = false := by
  intro pair hpair
  obtain ⟨edge, hedge, -, htarget, -⟩ := mem_joins_iff.mp hpair
  have hid := node_id_of_owner? hids hblank (hsound.ends_exist edge hedge).2 htarget
  have hnode := (mem_of_mem_placed (mem_placed_of_mem_joins hpair).2).1
  exact (hsound.ends_admit edge hedge _ hnode).1 hid

/-- When an edited document compiles, its source-only nodes start a run exactly when what becomes
links spares them. If the ids are still distinct and not blank after trimming, that fails only for a
document in which no edge joins executed nodes and a source-only node follows another one. -/
theorem sources_start_iff_of_edits {name : String} {commands : List Command}
    (hedits : ∀ command ∈ commands, command.IsEdit) {document : Document}
    (hdocument : (blank name).performAll commands = document) {policy : Policy}
    {definition : Definition} (hcompile : document.compile policy = .ok definition) :
    (SourcesStart document.nodes definition ↔
        LinksSpareSources document.nodes document.edges) ∧
      ((document.nodes.map fun node => trim node.id).Nodup →
        (∀ node ∈ document.nodes, trim node.id ≠ "") →
          (SourcesStart document.nodes definition ↔
            joins document.nodes document.edges ≠ [] ∨
              ∀ placement ∈ (placed document.nodes).tail,
                placement.node.isSourceOnly = false)) := by
  have hsound : document.Sound := hdocument ▸ (sound_blank name).performAll hedits
  have hiff := (compiled_of_eq_ok hcompile).sourcesStart_iff
  refine ⟨hiff, fun hids hblank => ?_⟩
  rw [hiff, LinksSpareSources]
  by_cases hnone : joins document.nodes document.edges = []
  · simp [hnone]
  · simp only [hnone, ne_eq, not_false_eq_true, true_or, iff_true]
    exact hsound.joins_spare_sources hids hblank

/-- Two triggers of which one has an edge to a step: both start a run. -/
theorem two_triggers_start :
    ∃ definition, ((blank "Draft").performAll [.addNode { type := "trigger" },
        .addNode { type := "ai" }, .connect "trigger_1" "ai_1" none]).compile {} = .ok definition ∧
      SourcesStart ((blank "Draft").performAll [.addNode { type := "trigger" },
        .addNode { type := "ai" }, .connect "trigger_1" "ai_1" none]).nodes definition := by
  obtain ⟨definition, hcompile⟩ : ∃ definition, ((blank "Draft").performAll
      [.addNode { type := "trigger" }, .addNode { type := "ai" },
        .connect "trigger_1" "ai_1" none]).compile {} = .ok definition := ⟨_, by rfl⟩
  have hiff := (sources_start_iff_of_edits (by simp [Command.IsEdit]) rfl hcompile).2
    (by decide +kernel) (by decide +kernel)
  exact ⟨definition, hcompile, hiff.mpr (Or.inl (by decide +kernel))⟩

/-- Two triggers and nothing else: the chain enters the second. -/
theorem chain_enters_second_trigger :
    (((blank "Draft").performAll [.addNode { type := "trigger" }]).nodes.map
        fun node => (node.id, node.isSourceOnly)) = [("trigger_1", true), ("trigger_2", true)] ∧
      (((blank "Draft").performAll [.addNode { type := "trigger" }]).compile {}).map
        (fun definition => (definition.idMap, definition.arrows, definition.entry)) =
        .ok
          ([("trigger_1", "trigger_1"), ("trigger_2", "trigger_2")],
            [("trigger_1", "trigger_2")], ["trigger_1"]) := by
  exact ⟨by decide +kernel, by decide +kernel⟩

end Document

end FlowGraph
