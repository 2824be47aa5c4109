/-
# The flow of a compiled definition

Editing keeps the edges of a document free of cycles, and compiling renames their ends and drops
edges, or makes a chain; none of this closes a cycle as long as no two nodes share an id after
trimming. A definition without cycles starts at the steps that no link enters, and every step can
be reached from them.

A source-only node starts a run only if no link enters its step. Edges never enter such a node, but
a chain does not ask what it runs through.
-/

import FlowGraph.Proofs.Definition.Compiled
import FlowGraph.Proofs.Edit.Soundness

namespace FlowGraph

open Compile Arrows Relation Text

/-- The ids of the steps that no link enters, in order. -/
def Definition.roots (definition : Definition) : List String :=
  definition.stepIds.filter fun id => definition.links.all fun link => link.target ≠ id

theorem Definition.forall_link_target_iff {definition : Definition} {id : String} :
    (∀ link ∈ definition.links, link.target ≠ id) ↔
      ∀ before, ¬ Leads definition.arrows before id := by
  constructor
  · intro hfree before hleads
    obtain ⟨link, hlink, heq⟩ := List.mem_map.mp hleads
    cases heq
    exact hfree link hlink rfl
  · rintro hfree link hlink rfl
    exact hfree link.source (List.mem_map_of_mem (f := Link.ends) hlink)

theorem Definition.mem_roots_iff {definition : Definition} {id : String} :
    id ∈ definition.roots ↔
      id ∈ definition.stepIds ∧ ∀ before, ¬ Leads definition.arrows before id := by
  rw [← Definition.forall_link_target_iff]
  simp [Definition.roots]

namespace Compile

variable {nodes : List Node} {edges : List Edge} {definition : Definition}

theorem Compiled.nodup_stepIds (hcompiled : Compiled nodes edges definition) :
    definition.stepIds.Nodup := by
  rw [hcompiled.stepIds_eq]
  exact Compile.nodup_stepIds nodes

/-- Links run between steps of the definition. -/
theorem Compiled.ends_mem (hcompiled : Compiled nodes edges definition) {source target : String}
    (hleads : Leads definition.arrows source target) :
    source ∈ definition.stepIds ∧ target ∈ definition.stepIds := by
  rw [Leads, hcompiled.arrows_eq] at hleads
  by_cases hnone : joins nodes edges = []
  · rw [if_pos hnone] at hleads
    obtain ⟨hsource, htarget⟩ := List.of_mem_zip hleads
    exact ⟨hsource, List.mem_of_mem_tail htarget⟩
  · rw [if_neg hnone] at hleads
    obtain ⟨pair, hpair, heq⟩ := List.mem_map.mp hleads
    cases heq
    obtain ⟨hsource, htarget⟩ := mem_placed_of_mem_joins hpair
    rw [hcompiled.stepIds_eq]
    exact ⟨List.mem_map_of_mem hsource, List.mem_map_of_mem htarget⟩

/-- No link returns to the step that it leaves. -/
theorem Compiled.source_ne_target (hcompiled : Compiled nodes edges definition) {link : Link}
    (hlink : link ∈ definition.links) : link.source ≠ link.target := by
  intro hloop
  have hends : Leads definition.arrows link.source link.source := by
    have hmem : link.ends ∈ definition.arrows := List.mem_map_of_mem hlink
    rwa [Link.ends, ← hloop] at hmem
  rw [Leads, hcompiled.arrows_eq] at hends
  split at hends
  · exact acyclic_zip_tail hcompiled.nodup_stepIds _ (TransGen.single hends)
  · obtain ⟨pair, hpair, hsame⟩ := List.mem_map.mp hends
    obtain ⟨edge, -, -, -, hdiffer⟩ := mem_joins_iff.mp hpair
    obtain ⟨hsource, htarget⟩ := Prod.mk.inj hsame
    exact hdiffer (hsource.trans htarget.symm)

/-- Among nodes with distinct trimmed ids, an end of an edge stands for the node that it names. -/
theorem node_id_of_owner? (hids : (nodes.map fun node => trim node.id).Nodup)
    (hblank : ∀ node ∈ nodes, trim node.id ≠ "") {id : String} (hid : id ∈ nodes.map Node.id)
    {placement : Placement} (howner : owner? (placed nodes) (trim id) = some placement) :
    placement.node.id = id := by
  obtain ⟨node, hnode, rfl⟩ := List.mem_map.mp hid
  obtain ⟨hplaced, htrim⟩ := (owner?_trim_eq_some_iff hids hblank).mp howner
  have hsame : placement.node = node :=
    List.inj_on_of_nodup_map hids (mem_of_mem_placed hplaced).1 hnode htrim
  rw [hsame]

/-- Compiling closes no cycle. -/
theorem Compiled.acyclic (hcompiled : Compiled nodes edges definition)
    (hids : (nodes.map fun node => trim node.id).Nodup)
    (hblank : ∀ node ∈ nodes, trim node.id ≠ "")
    (hends : ∀ edge ∈ edges, edge.source ∈ nodes.map Node.id ∧ edge.target ∈ nodes.map Node.id)
    (hacyclic : Acyclic (edges.map Edge.ends)) : Acyclic definition.arrows := by
  rw [hcompiled.arrows_eq]
  by_cases hnone : joins nodes edges = []
  · rw [if_pos hnone]
    exact acyclic_zip_tail hcompiled.nodup_stepIds
  · rw [if_neg hnone]
    -- a pair that is joined comes from an edge between the ids of its nodes
    have hjoins : Acyclic (joins nodes edges) := by
      refine hacyclic.of_map (fun placement => placement.node.id) fun source target hleads => ?_
      obtain ⟨edge, hedge, hsource, htarget, -⟩ := mem_joins_iff.mp hleads
      obtain ⟨hsourceMem, htargetMem⟩ := hends edge hedge
      rw [node_id_of_owner? hids hblank hsourceMem hsource,
        node_id_of_owner? hids hblank htargetMem htarget]
      exact TransGen.single (List.mem_map_of_mem (f := Edge.ends) hedge)
    exact hjoins.map (fun pair hpair => mem_placed_of_mem_joins hpair)
      fun first hfirst second hsecond => placement_eq_of_stepId_eq hfirst hsecond

theorem Compiled.entry_eq_roots (hcompiled : Compiled nodes edges definition)
    (hroots : definition.roots ≠ []) : definition.entry = definition.roots := by
  rw [hcompiled.entry_eq, entryIds, ← Definition.roots]
  split
  · contradiction
  · rfl

/-- Without a cycle every step has a root of the definition behind it. -/
theorem Compiled.exists_root_path (hcompiled : Compiled nodes edges definition)
    (hacyclic : Acyclic definition.arrows) {id : String} (hid : id ∈ definition.stepIds) :
    ∃ root ∈ definition.roots, ReflTransGen (Leads definition.arrows) root id := by
  obtain ⟨root, hroot, hpath⟩ := exists_root hacyclic.wellFounded id
  refine ⟨root, Definition.mem_roots_iff.mpr ⟨?_, hroot⟩, hpath⟩
  rcases hpath.cases_head with rfl | ⟨next, hstep, -⟩
  · exact hid
  · exact (hcompiled.ends_mem hstep).1

theorem Compiled.stepIds_ne_nil (hcompiled : Compiled nodes edges definition) :
    definition.stepIds ≠ [] := by
  rw [hcompiled.stepIds_eq]
  simpa using hcompiled.nonempty

theorem Compiled.roots_ne_nil (hcompiled : Compiled nodes edges definition)
    (hacyclic : Acyclic definition.arrows) : definition.roots ≠ [] := by
  obtain ⟨id, hid⟩ := List.exists_mem_of_ne_nil _ hcompiled.stepIds_ne_nil
  obtain ⟨root, hroot, -⟩ := hcompiled.exists_root_path hacyclic hid
  exact List.ne_nil_of_mem hroot

end Compile

namespace Document

/-- A document that was edited from a new one, and whose ids stay distinct and do not vanish when
they are trimmed, compiles to a definition without cycles. It starts at the steps that no link
enters, and every step can be reached from them. -/
theorem compiled_flow_of_edits {name : String} {commands : List Command}
    (hedits : ∀ command ∈ commands, command.IsEdit)
    (hids : (((blank name).performAll commands).nodes.map fun node => trim node.id).Nodup)
    (hblank : ∀ node ∈ ((blank name).performAll commands).nodes, trim node.id ≠ "")
    {policy : Policy} {definition : Definition}
    (hcompile : ((blank name).performAll commands).compile policy = .ok definition) :
    Acyclic definition.arrows ∧ definition.entry = definition.roots ∧
      ∀ id ∈ definition.stepIds, ∃ entry ∈ definition.entry,
        ReflTransGen (Leads definition.arrows) entry id := by
  have hsound := (sound_blank name).performAll hedits
  have hcompiled := compiled_of_eq_ok hcompile
  have hacyclic := hcompiled.acyclic hids hblank hsound.ends_exist hsound.acyclic
  have hentry := hcompiled.entry_eq_roots (hcompiled.roots_ne_nil hacyclic)
  refine ⟨hacyclic, hentry, fun id hid => ?_⟩
  rw [hentry]
  exact hcompiled.exists_root_path hacyclic hid

/-- A trigger and the step that it starts. -/
theorem compiled_flow_of_two_steps :
    ∃ definition, ((blank "Draft").performAll [.addNode { type := "ai" },
        .connect "trigger_1" "ai_1" none]).compile {} = .ok definition ∧
      Acyclic definition.arrows ∧ definition.entry = definition.roots ∧
        ∀ id ∈ definition.stepIds, ∃ entry ∈ definition.entry,
          ReflTransGen (Leads definition.arrows) entry id := by
  obtain ⟨definition, hcompile⟩ : ∃ definition, ((blank "Draft").performAll
      [.addNode { type := "ai" }, .connect "trigger_1" "ai_1" none]).compile {} = .ok definition :=
    ⟨_, by rfl⟩
  exact ⟨definition, hcompile, compiled_flow_of_edits (by simp [Command.IsEdit])
    (by decide +kernel) (by decide +kernel) hcompile⟩

end Document

end FlowGraph
