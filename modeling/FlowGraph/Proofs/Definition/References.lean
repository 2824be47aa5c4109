/-
# References of compiled steps

Edges are renamed along with the nodes that they join, but bindings are not: a compiled step refers
to the steps that it reads by the ids of their nodes. A reference therefore reaches its step exactly
when compiling left the id of that step's node as it is, and may otherwise reach the step of another
node.
-/

import FlowGraph.Proofs.Binding
import FlowGraph.Proofs.Definition.Compiled

namespace FlowGraph

open Compile Text

namespace Compile

variable {nodes : List Node} {edges : List Edge} {definition : Definition}

/-- With trimmed ids distinct and not blank, the table of ids leads every executed node to its own
placement. -/
theorem Compiled.exists_placement (hcompiled : Compiled nodes edges definition)
    (hids : (nodes.map fun node => trim node.id).Nodup)
    (hblank : ∀ node ∈ nodes, trim node.id ≠ "") {node : Node} (hnode : node ∈ nodes)
    (hkey : nodeKey node ≠ "") :
    ∃ placement ∈ placed nodes, placement.node = node ∧
      Fields.get? definition.idMap (trim node.id) = some placement.stepId := by
  obtain ⟨placement, hplaced, rfl⟩ := Compile.exists_placement hnode hkey
  refine ⟨placement, hplaced, rfl, ?_⟩
  have howner : owner? (placed nodes) (trim placement.node.id) = some placement :=
    (owner?_trim_eq_some_iff hids hblank).mpr ⟨hplaced, rfl⟩
  rw [hcompiled.idMap_eq, get?_ofPairs_owner, howner, Option.map_some]

/-- Ids that are step ids already stay as they are. -/
theorem Compiled.get?_idMap_of_fixed (hcompiled : Compiled nodes edges definition)
    (hids : (nodes.map fun node => trim node.id).Nodup)
    (hblank : ∀ node ∈ nodes, trim node.id ≠ "")
    (hfixed : ∀ node ∈ nodes, nodeKey node ≠ "" → sanitize node.id = node.id) {node : Node}
    (hnode : node ∈ nodes) (hkey : nodeKey node ≠ "") :
    Fields.get? definition.idMap (trim node.id) = some node.id := by
  obtain ⟨placement, hplaced, rfl, hfound⟩ := hcompiled.exists_placement hids hblank hnode hkey
  have hdistinct : (nodes.map Node.id).Nodup := by
    refine List.Nodup.of_map trim ?_
    rw [List.map_map]
    exact hids
  rw [hfound, stepId_of_mem_placements hdistinct hblank hfixed (by simp) hplaced]

end Compile

namespace Document

variable {document : Document}

/-- A step that reads the output of another refers to it by the id of its node. The reference is the
one to the step that this node became exactly when compiling did not rename it, as it never does
when the ids of all executed nodes are step ids already. -/
theorem compiled_reference_reaches_iff
    (hids : (document.nodes.map fun node => trim node.id).Nodup)
    (hblank : ∀ node ∈ document.nodes, trim node.id ≠ "") {policy : Policy}
    {definition : Definition} (hcompile : document.compile policy = .ok definition)
    {reader source : Node} (hreader : reader ∈ document.nodes) (hreaderKey : nodeKey reader ≠ "")
    (hsource : source ∈ document.nodes) (hsourceKey : nodeKey source ≠ "")
    (hkeyed : Binding.Keyed reader.bindings) {slot path : String}
    (hbinding : (slot, .stepOutput source.id path) ∈ reader.bindings) :
    ∃ step ∈ definition.steps, ∃ sourceId reference,
      Fields.get? definition.idMap (trim reader.id) = some step.id ∧
      Fields.get? definition.idMap (trim source.id) = some sourceId ∧
      Fields.get? step.bindings slot = some (.text reference) ∧
      (∀ id, reference = Path.stepReference id path ↔ id = source.id) ∧
      (reference = Path.stepReference sourceId path ↔ sourceId = source.id) ∧
      ((∀ node ∈ document.nodes, nodeKey node ≠ "" → sanitize node.id = node.id) →
        sourceId = source.id) := by
  have hcompiled := compiled_of_eq_ok hcompile
  obtain ⟨placement, hplaced, rfl, hreaderId⟩ :=
    hcompiled.exists_placement hids hblank hreader hreaderKey
  obtain ⟨sourcePlacement, -, -, hsourceId⟩ :=
    hcompiled.exists_placement hids hblank hsource hsourceKey
  have hstep : placement.step ∈ definition.steps := by
    rw [hcompiled.steps_eq]
    exact List.mem_map_of_mem hplaced
  have hreference (id : String) : Path.stepReference source.id path = Path.stepReference id path ↔
      id = source.id := Path.stepReference_inj.trans eq_comm
  refine ⟨_, hstep, sourcePlacement.stepId, Path.stepReference source.id path, hreaderId,
    hsourceId, ?_, hreference, hreference _, fun hfixed => ?_⟩
  · refine (Binding.get?_toWireAll_iff hkeyed).mpr ⟨_, hbinding, ?_, rfl⟩
    intro hempty
    have hid : source.id = "" := by simpa [Binding.stepId?] using hempty
    exact hblank source hsource (by rw [hid]; rfl)
  · have hkept := hcompiled.get?_idMap_of_fixed hids hblank hfixed hsource hsourceKey
    exact Option.some.inj (hsourceId.symm.trans hkept)

/-- Two steps whose ids differ only before compiling, and a third that reads the second. -/
def lookalikes : Document :=
  { nodes :=
      [{ id := "my step", type := "ai", data := { mode := "generate" } },
       { id := "my_step", type := "ai", data := { mode := "generate" } },
       { id := "reader"
         type := "ai"
         data :=
           { mode := "generate", bindings := [("doc_ids", .stepOutput "my_step" "doc_ids")] } }]
    edges := [{ id := "e", source := "my_step", target := "reader" }] }

/-- The reader refers to `my_step`, but the step that it reads became `my_step_2`. -/
theorem lookalike_reference_misses :
    ∃ definition, lookalikes.compile {} = .ok definition ∧
      ∃ step ∈ definition.steps, ∃ sourceId reference,
        Fields.get? definition.idMap "reader" = some step.id ∧
        Fields.get? definition.idMap "my_step" = some sourceId ∧
        Fields.get? step.bindings "doc_ids" = some (.text reference) ∧
        (reference = Path.stepReference sourceId "doc_ids" ↔ sourceId = "my_step") := by
  obtain ⟨definition, hcompile⟩ : ∃ definition, lookalikes.compile {} = .ok definition :=
    ⟨_, by rfl⟩
  have hreader : lookalikes.nodes[2] ∈ lookalikes.nodes := by simp
  have hsource : lookalikes.nodes[1] ∈ lookalikes.nodes := by simp
  have hkeyed : Binding.Keyed lookalikes.nodes[2].bindings :=
    ⟨by decide +kernel, by decide +kernel, by decide +kernel⟩
  obtain ⟨step, hstep, sourceId, reference, hreaderId, hsourceId, hreference, -, hreaches, -⟩ :=
    compiled_reference_reaches_iff (by decide +kernel) (by decide +kernel) hcompile hreader
      (by decide +kernel) hsource (by decide +kernel) hkeyed List.mem_cons_self
  exact ⟨definition, hcompile, step, hstep, sourceId, reference, hreaderId, hsourceId, hreference,
    hreaches⟩

/-- The reference of the reader is the one to the step of the other node. -/
theorem lookalike_reference_names_other :
    (lookalikes.nodes.map fun node => trim node.id).Nodup ∧
      (lookalikes.compile {}).map (fun definition =>
        (definition.idMap, definition.steps.map fun step => Fields.get? step.bindings "doc_ids")) =
        .ok
          ([("my step", "my_step"), ("my_step", "my_step_2"), ("reader", "reader")],
            [none, none, some (.text (Path.stepReference "my_step" "doc_ids"))]) ∧
      Path.stepReference "my_step" "doc_ids" ≠ Path.stepReference "my_step_2" "doc_ids" := by
  exact ⟨by decide +kernel, by rfl, by decide +kernel⟩

end Document

end FlowGraph
