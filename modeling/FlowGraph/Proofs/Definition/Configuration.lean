/-
# Configurations after saving and loading

A step is written with the configuration of its node, and without one if that has no setting at all.
The two cannot be told apart when the step is loaded again: where no configuration is written, the
one of a new node takes its place. Since no new node is without settings, a configuration without
any does not come back. Every other one does, except for the sample input of a trigger, which is
cleared on both ways.
-/

import FlowGraph.Proofs.Definition.Reload

namespace FlowGraph

open Compile Text

namespace Node

/-- The configuration of a node in which the sample input of a trigger is cleared. -/
def clearedConfig (node : Node) : Fields Value :=
  if node.isSourceOnly then Fields.set node.config "input" (.object []) else node.config

variable {node : Node} {type : NodeType} {mode : Mode}

/-- Only a configuration without any setting is lost, and that of a trigger always has one. -/
theorem IsOf.reloadedConfig_eq_iff (hnode : node.IsOf type mode)
    (hexecuted : type.builderOnly = false) :
    node.reloadedConfig = node.clearedConfig ↔ node.isSourceOnly = true ∨ node.config ≠ [] := by
  rw [reloadedConfig, clearedConfig, hnode.modeRecord?_eq, Option.map_some, Option.getD_some]
  cases hsource : node.isSourceOnly with
  | true => simp
  | false =>
      have hdefault : mode.defaultConfig ≠ [] :=
        Catalog.defaultConfig_ne_nil hnode.type_mem hexecuted (hnode.isSourceOnly_eq ▸ hsource)
          hnode.mode_mem
      cases hconfig : node.config with
      | nil => simpa using hdefault
      | cons pair rest => simp

end Node

namespace Document

variable {document : Document}

/-- Every executed node is found again under its id. -/
theorem Savable.exists_copy (hsavable : document.Savable) {loaded : Document}
    (hnodes : loaded.nodes.map Node.unplaced =
      document.executed.map fun node => node.reloaded.unplaced) {node : Node}
    (hnode : node ∈ document.executed) :
    ∃ copy, loaded.node? node.id = some copy ∧ copy.unplaced = node.reloaded.unplaced := by
  have hids : loaded.nodeIds = document.executed.map Node.id := by
    have hsame := congrArg (List.map Node.id) hnodes
    rw [nodeIds]
    simpa [Function.comp_def, Node.unplaced, Node.reloaded] using hsame
  have hdistinct : loaded.nodeIds.Nodup :=
    hids ▸ hsavable.sound.nodes_distinct.sublist (List.filter_sublist.map _)
  have hmem : node.reloaded.unplaced ∈ loaded.nodes.map Node.unplaced :=
    hnodes ▸ List.mem_map_of_mem hnode
  obtain ⟨copy, hcopy, hsame⟩ := List.mem_map.mp hmem
  have hid : copy.id = node.id := by
    have hid := congrArg Node.id hsame
    simpa [Node.unplaced, Node.reloaded] using hid
  exact ⟨copy, hid ▸ node?_of_mem hdistinct hcopy, hsame⟩

/-- Whatever configuration edits gave an executed node, it comes back from a saved definition with
the sample input of a trigger cleared, if and only if it has a setting or is that of a trigger.
A configuration without any setting comes back as the one of a new node. -/
theorem config_reloads_iff_of_edits {name : String} {commands : List Command}
    (hedits : ∀ command ∈ commands, command.IsEdit)
    (hdocument : (blank name).performAll commands = document)
    (hids : ∀ node ∈ document.nodes, sanitize node.id = node.id) {node : Node}
    (hnode : node ∈ document.executed) (policy : Policy) (title : String) :
    ∃ definition loaded copy, document.compile policy = .ok definition ∧
      Load.document definition.toWire title = .ok loaded ∧
      loaded.node? node.id = some copy ∧
      (copy.config = node.clearedConfig ↔ node.isSourceOnly = true ∨ node.config ≠ []) ∧
      (node.isSourceOnly = false → node.config = [] →
        ∃ mode, node.modeRecord? = some mode ∧ copy.config = mode.defaultConfig) := by
  have hsavable := Savable.of_edits hedits hdocument hids
  obtain ⟨definition, loaded, hcompile, hload, hnodes, -⟩ :=
    hsavable.exists_reload policy title (List.ne_nil_of_mem hnode)
  obtain ⟨copy, hfound, hsame⟩ := hsavable.exists_copy hnodes hnode
  obtain ⟨-, type, mode, hof, hexecuted⟩ := hsavable.isOf_of_mem_executed hnode
  have hconfig : copy.config = node.reloadedConfig := by
    have hconfig := congrArg Node.config hsame
    simpa [Node.config, Node.unplaced, Node.reloaded] using hconfig
  refine ⟨definition, loaded, copy, hcompile, hload, hfound, ?_, fun hsource hempty => ?_⟩
  · rw [hconfig]
    exact hof.reloadedConfig_eq_iff hexecuted
  · refine ⟨mode, hof.modeRecord?_eq, ?_⟩
    rw [hconfig, Node.reloadedConfig, hof.modeRecord?_eq]
    simp [hsource, hempty]

/-- A trigger and a step with this configuration. -/
def configured (config : Fields Value) : Document :=
  (blank "Draft").performAll
    [.addNode { type := "ai" }, .patchNode { nodeId := "ai_1", config := some config }]

theorem prompt_reloads :
    ∃ definition loaded copy,
      (configured [("prompt", .text "Summarise")]).compile {} = .ok definition ∧
        Load.document definition.toWire "Copy" = .ok loaded ∧
        loaded.node? "ai_1" = some copy ∧ copy.config = [("prompt", .text "Summarise")] := by
  obtain ⟨node, hnode⟩ : ∃ node,
      (configured [("prompt", .text "Summarise")]).executed[1]? = some node := ⟨_, by rfl⟩
  have hfacts : (some node).map (fun node => (node.id, node.isSourceOnly)) =
      some ("ai_1", false) := hnode ▸ by decide +kernel
  have hconfig : (some node).map Node.config = some [("prompt", .text "Summarise")] :=
    hnode ▸ by rfl
  simp only [Option.map_some, Option.some.injEq, Prod.mk.injEq] at hfacts hconfig
  obtain ⟨definition, loaded, copy, hcompile, hload, hfound, hiff, -⟩ :=
    config_reloads_iff_of_edits (by simp [Command.IsEdit]) (configured.eq_1 _).symm
      (by decide +kernel) (List.mem_of_getElem? hnode) {} "Copy"
  refine ⟨definition, loaded, copy, hcompile, hload, hfacts.1 ▸ hfound, ?_⟩
  rw [hiff.mpr (Or.inr (by simp [hconfig])), Node.clearedConfig, hfacts.2, hconfig]
  rfl

/-- A step whose configuration was emptied comes back with settings. -/
theorem emptied_config_is_refilled :
    (∀ node ∈ (configured []).nodes, sanitize node.id = node.id) ∧
      ((configured []).executed.map fun node => (node.id, node.config.isEmpty)) =
        [("trigger_1", false), ("ai_1", true)] ∧
      (((configured []).compile {}).bind fun definition =>
        (Load.document definition.toWire "Copy").map fun loaded =>
          loaded.nodes.map fun node => (node.id, node.config.isEmpty)) =
        .ok [("trigger_1", false), ("ai_1", false)] := by
  exact ⟨by decide +kernel, by decide +kernel, by decide +kernel⟩

end Document

end FlowGraph
