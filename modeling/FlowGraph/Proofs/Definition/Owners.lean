/-
# Nodes that are known by one id

Edits keep the ids of nodes apart as they are written. Compiling knows an executed node by its id
without the blanks around it, or by its place in the list if nothing is left, and of several nodes
that are known by the same id the last one owns it. So different nodes have different entries in
the table of ids exactly when no two executed nodes are known by the same id, and an edge becomes a
link between the steps of its own nodes exactly when these are the ones that own its trimmed ends.
An edge that touches a node that is not executed is dropped, unless other nodes own its ends.
-/

import FlowGraph.Proofs.Definition.Reload
import FlowGraph.Proofs.Definition.Translation

namespace FlowGraph

open Compile Text

namespace Compile

/-- The executed node that has the id as it is written. -/
def named? (all : List Placement) (id : String) : Option Placement :=
  all.find? fun placement => placement.node.id = id

/-- The two executed nodes that an edge is drawn between. -/
def drawnBetween? (all : List Placement) (edge : Edge) : Option (Placement × Placement) :=
  match named? all edge.source, named? all edge.target with
  | some source, some target => some (source, target)
  | _, _ => none

/-- The pairs of executed nodes that edges are drawn between, in the order of the edges. -/
def drawnPairs (nodes : List Node) (edges : List Edge) : List (Placement × Placement) :=
  edges.filterMap (drawnBetween? (placed nodes))

/-- The nodes of an edge between executed nodes own its ends, and the ends of any other edge are not
owned by two executed nodes. -/
def OwnsEnds (all : List Placement) (edge : Edge) : Prop :=
  match drawnBetween? all edge with
  | some (source, target) =>
    owner? all (trim edge.source) = some source ∧ owner? all (trim edge.target) = some target
  | none => joined? all edge = none

/-- Different executed nodes have different entries in the table of ids. -/
def EntriesDiffer (nodes : List Node) (definition : Definition) : Prop :=
  ∀ first ∈ placed nodes, ∀ second ∈ placed nodes, first.node.id ≠ second.node.id →
    Fields.get? definition.idMap first.canvas ≠ Fields.get? definition.idMap second.canvas

variable {nodes : List Node} {edges : List Edge} {definition : Definition} {edge : Edge}
  {source target placement : Placement}

theorem mem_of_named? {id : String} (hnamed : named? (placed nodes) id = some placement) :
    placement ∈ placed nodes ∧ placement.node.id = id :=
  ⟨List.mem_of_find?_eq_some hnamed, by simpa using List.find?_some hnamed⟩

/-- With distinct ids an executed node is determined by its id. -/
theorem placement_eq_of_id_eq (hids : (nodes.map Node.id).Nodup) {first second : Placement}
    (hfirst : first ∈ placed nodes) (hsecond : second ∈ placed nodes)
    (hid : first.node.id = second.node.id) : first = second := by
  have hdistinct : ((placed nodes).map fun placement => placement.node.id).Nodup := by
    have hnodes : (placed nodes).map (fun placement => placement.node.id) =
        ((placed nodes).map Placement.node).map Node.id := by rw [List.map_map, Function.comp_def]
    rw [hnodes, placed, map_node_placements]
    exact hids.sublist (List.filter_sublist.map _)
  exact List.inj_on_of_nodup_map hdistinct hfirst hsecond hid

theorem named?_eq_some_iff (hids : (nodes.map Node.id).Nodup) {id : String} :
    named? (placed nodes) id = some placement ↔
      placement ∈ placed nodes ∧ placement.node.id = id := by
  refine ⟨mem_of_named?, ?_⟩
  rintro ⟨hplaced, rfl⟩
  cases hnamed : named? (placed nodes) placement.node.id with
  | none =>
      have habsent := List.find?_eq_none.mp hnamed placement hplaced
      simp at habsent
  | some other =>
      obtain ⟨hother, hsame⟩ := mem_of_named? hnamed
      rw [placement_eq_of_id_eq hids hother hplaced hsame]

theorem drawnBetween?_eq_some_iff {all : List Placement} :
    drawnBetween? all edge = some (source, target) ↔
      named? all edge.source = some source ∧ named? all edge.target = some target := by
  rw [drawnBetween?]
  cases named? all edge.source with
  | none => simp
  | some first => cases named? all edge.target <;> simp

/-- Entries differ exactly when no two executed nodes are known by the same id. -/
theorem Compiled.entriesDiffer_iff (hcompiled : Compiled nodes edges definition)
    (hids : (nodes.map Node.id).Nodup) :
    EntriesDiffer nodes definition ↔ ((placed nodes).map Placement.canvas).Nodup := by
  have hentry (placement : Placement) : Fields.get? definition.idMap placement.canvas =
      (owner? (placed nodes) placement.canvas).map Placement.stepId := by
    rw [hcompiled.idMap_eq, get?_ofPairs_owner]
  constructor
  · intro hdiffer
    refine List.Nodup.map_on (fun first hfirst second hsecond hcanvas => ?_)
      (List.Nodup.of_map Placement.stepId (Compile.nodup_stepIds nodes))
    by_contra hne
    have hid : first.node.id ≠ second.node.id := fun hsame =>
      hne (placement_eq_of_id_eq hids hfirst hsecond hsame)
    exact hdiffer first hfirst second hsecond hid (by rw [hcanvas])
  · intro hcanvas first hfirst second hsecond hid hsame
    rw [hentry, hentry, (owner?_eq_some_iff hcanvas).mpr ⟨hfirst, rfl⟩,
      (owner?_eq_some_iff hcanvas).mpr ⟨hsecond, rfl⟩, Option.map_some, Option.map_some,
      Option.some.injEq] at hsame
    exact hid (by rw [placement_eq_of_stepId_eq hfirst hsecond hsame])

/-- An edge that is no loop joins its own nodes exactly when they own its ends. -/
theorem joined?_eq_drawnBetween?_iff (hloop : edge.source ≠ edge.target) :
    joined? (placed nodes) edge = drawnBetween? (placed nodes) edge ↔
      OwnsEnds (placed nodes) edge := by
  rw [OwnsEnds]
  cases hdrawn : drawnBetween? (placed nodes) edge with
  | none => rfl
  | some pair =>
      obtain ⟨source, target⟩ := pair
      obtain ⟨hsource, htarget⟩ := drawnBetween?_eq_some_iff.mp hdrawn
      obtain ⟨hsourcePlaced, hsourceId⟩ := mem_of_named? hsource
      obtain ⟨htargetPlaced, htargetId⟩ := mem_of_named? htarget
      have hdiffer : source.stepId ≠ target.stepId := by
        intro hstep
        apply hloop
        rw [← hsourceId, ← htargetId,
          placement_eq_of_stepId_eq hsourcePlaced htargetPlaced hstep]
      rw [joined?_eq_some_iff, and_iff_left hdiffer]

end Compile

namespace Document

variable {document : Document} {definition : Definition}

/-- Where ids are distinct and not blank after trimming, the nodes of every edge own its ends. -/
theorem ownsEnds_of_nodup_trim (hids : (document.nodes.map fun node => trim node.id).Nodup)
    (hblank : ∀ node ∈ document.nodes, trim node.id ≠ "") {edge : Edge}
    (hends : edge.source ∈ document.nodeIds ∧ edge.target ∈ document.nodeIds) :
    OwnsEnds (placed document.nodes) edge := by
  have hdistinct : document.nodeIds.Nodup := by
    refine List.Nodup.of_map trim ?_
    rwa [nodeIds, List.map_map]
  rw [OwnsEnds]
  cases hdrawn : drawnBetween? (placed document.nodes) edge with
  | some pair =>
      obtain ⟨source, target⟩ := pair
      obtain ⟨hsource, htarget⟩ := drawnBetween?_eq_some_iff.mp hdrawn
      obtain ⟨hsourcePlaced, hsourceId⟩ := mem_of_named? hsource
      obtain ⟨htargetPlaced, htargetId⟩ := mem_of_named? htarget
      exact ⟨(owner?_trim_eq_some_iff hids hblank).mpr ⟨hsourcePlaced, by rw [hsourceId]⟩,
        (owner?_trim_eq_some_iff hids hblank).mpr ⟨htargetPlaced, by rw [htargetId]⟩⟩
  | none =>
      -- owners of the trimmed ends would be the nodes of the edge
      by_contra hjoined
      obtain ⟨⟨source, target⟩, hjoined⟩ := Option.ne_none_iff_exists'.mp hjoined
      obtain ⟨hsource, htarget, -⟩ := joined?_eq_some_iff.mp hjoined
      have hnamed : drawnBetween? (placed document.nodes) edge = some (source, target) :=
        drawnBetween?_eq_some_iff.mpr
          ⟨(named?_eq_some_iff hdistinct).mpr
              ⟨(mem_of_owner? hsource).1, node_id_of_owner? hids hblank hends.1 hsource⟩,
            (named?_eq_some_iff hdistinct).mpr
              ⟨(mem_of_owner? htarget).1, node_id_of_owner? hids hblank hends.2 htarget⟩⟩
      rw [hdrawn] at hnamed
      cases hnamed

/-- The link of an edge runs between the steps of its own nodes, or there is none if one of these is
not executed, exactly when the nodes own the ends. -/
theorem Sound.ends_of_mem_translated_iff (hsound : document.Sound) {pair : Edge × Option Link}
    (hpair : pair ∈ translated document.nodes document.edges) :
    pair.2.map Link.ends = (drawnBetween? (placed document.nodes) pair.1).map
        (fun drawn => (drawn.1.stepId, drawn.2.stepId)) ↔
      OwnsEnds (placed document.nodes) pair.1 := by
  have hedge : pair.1 ∈ document.edges := by
    have hmem := List.mem_map_of_mem (f := Prod.fst) hpair
    rwa [map_fst_translated] at hmem
  rw [← joined?_eq_drawnBetween?_iff (hsound.source_ne_target hedge),
    ends_of_mem_translated hpair]
  refine ⟨fun hsame => ?_, fun hsame => by rw [hsame]⟩
  cases hjoined : joined? (placed document.nodes) pair.1 with
  | none =>
      rw [hjoined] at hsame
      exact (Option.map_eq_none_iff.mp hsame.symm).symm
  | some joined =>
      rw [hjoined] at hsame
      obtain ⟨drawn, hdrawn, hsteps⟩ := Option.map_eq_some_iff.mp hsame.symm
      obtain ⟨hsource, htarget⟩ := drawnBetween?_eq_some_iff.mp hdrawn
      rw [hdrawn, pair_eq_of_steps_eq ⟨(mem_of_named? hsource).1, (mem_of_named? htarget).1⟩
        (mem_placed_of_joined? hjoined) hsteps]

/-- Where the nodes of every edge own its ends, the links are the edges between executed nodes, if
there are any. -/
theorem Sound.arrows_eq_of_ownsEnds (hsound : document.Sound)
    (hcompiled : Compiled document.nodes document.edges definition)
    (howns : ∀ edge ∈ document.edges, OwnsEnds (placed document.nodes) edge)
    (hdrawn : drawnPairs document.nodes document.edges ≠ []) :
    definition.arrows = stepArrows (drawnPairs document.nodes document.edges) := by
  have hjoins : joins document.nodes document.edges =
      drawnPairs document.nodes document.edges :=
    List.filterMap_congr fun edge hedge =>
      (joined?_eq_drawnBetween?_iff (hsound.source_ne_target hedge)).mpr (howns edge hedge)
  rw [hcompiled.arrows_eq, hjoins, if_neg hdrawn]

/-- When an edited document compiles, different executed nodes have different entries in the table
of ids exactly when no two of them are known by the same id. The links are those that edges become,
or a chain if there is none, and the link of an edge runs between the steps of its own nodes exactly
when these own its ends. Where this is so for every edge, the links are the edges between executed
nodes in order, if there are any. All of it holds as long as the ids of the nodes are distinct and
not blank after trimming. -/
theorem steps_kept_apart_iff_of_edits {name : String} {commands : List Command}
    (hedits : ∀ command ∈ commands, command.IsEdit)
    (hdocument : (blank name).performAll commands = document) {policy : Policy}
    (hcompile : document.compile policy = .ok definition) :
    (EntriesDiffer document.nodes definition ↔
        ((placed document.nodes).map Placement.canvas).Nodup) ∧
      (definition.links =
        if drawnLinks document.nodes document.edges = [] then chain definition.stepIds
        else drawnLinks document.nodes document.edges) ∧
      (∀ pair ∈ translated document.nodes document.edges,
        pair.2.map Link.ends = (drawnBetween? (placed document.nodes) pair.1).map
            (fun drawn => (drawn.1.stepId, drawn.2.stepId)) ↔
          OwnsEnds (placed document.nodes) pair.1) ∧
      ((∀ edge ∈ document.edges, OwnsEnds (placed document.nodes) edge) →
        drawnPairs document.nodes document.edges ≠ [] →
          definition.arrows = stepArrows (drawnPairs document.nodes document.edges)) ∧
      ((document.nodes.map fun node => trim node.id).Nodup →
        (∀ node ∈ document.nodes, trim node.id ≠ "") →
          ((placed document.nodes).map Placement.canvas).Nodup ∧
            ∀ edge ∈ document.edges, OwnsEnds (placed document.nodes) edge) := by
  have hsound : document.Sound := hdocument ▸ (sound_blank name).performAll hedits
  have hcompiled := compiled_of_eq_ok hcompile
  refine ⟨hcompiled.entriesDiffer_iff hsound.nodes_distinct, links_of_eq_ok hcompile,
    fun pair hpair => hsound.ends_of_mem_translated_iff hpair,
    hsound.arrows_eq_of_ownsEnds hcompiled, fun hids hblank => ⟨nodup_canvas hids hblank, ?_⟩⟩
  intro edge hedge
  exact ownsEnds_of_nodup_trim hids hblank (hsound.ends_exist edge hedge)

/-- A draft with two steps of these ids, edges from the second to the first, and from the first to a
last step. -/
def neighbours (first second : String) : Document :=
  (blank "Draft").performAll
    [.addNode { type := "ai", nodeId := some first },
      .addNode { type := "ai", nodeId := some second },
      .addNode { type := "ai", nodeId := some "last" }, .connect first "last" none,
      .connect second first none]

/-- Ids that become the same only when they are made to fit the grammar do no harm. -/
theorem lookalikes_kept_apart :
    ∃ definition, (neighbours "my step" "my_step").compile {} = .ok definition ∧
      EntriesDiffer (neighbours "my step" "my_step").nodes definition ∧
      definition.arrows = [("my_step", "last"), ("my_step_2", "my_step")] := by
  obtain ⟨definition, hcompile⟩ : ∃ definition,
      (neighbours "my step" "my_step").compile {} = .ok definition := ⟨_, by rfl⟩
  obtain ⟨hentries, -, -, harrows, hplain⟩ := steps_kept_apart_iff_of_edits
    (by simp [Command.IsEdit]) (neighbours.eq_1 "my step" "my_step").symm hcompile
  obtain ⟨hcanvas, howns⟩ := hplain (by decide +kernel) (by decide +kernel)
  have hsteps : stepArrows (drawnPairs (neighbours "my step" "my_step").nodes
        (neighbours "my step" "my_step").edges) =
      [("my_step", "last"), ("my_step_2", "my_step")] := by decide +kernel
  have hdrawn : drawnPairs (neighbours "my step" "my_step").nodes
      (neighbours "my step" "my_step").edges ≠ [] := by
    intro hnone
    rw [hnone] at hsteps
    cases hsteps
  exact ⟨definition, hcompile, hentries.mpr hcanvas, (harrows howns hdrawn).trans hsteps⟩

/-- A blank in front of an id: both steps have one entry in the table, the edge of the first becomes
a link that leaves the second, and the edge between them is dropped. -/
theorem blank_in_front_moves_edge :
    (neighbours "a" " a").arrows = [("a", "last"), (" a", "a")] ∧
      ((neighbours "a" " a").compile {}).map (fun definition =>
          (definition.stepIds, definition.idMap, definition.arrows)) =
        .ok
          (["trigger_1", "a", "a_2", "last"],
            [("trigger_1", "trigger_1"), ("a", "a_2"), ("last", "last")], [("a_2", "last")]) := by
  exact ⟨by decide +kernel, by decide +kernel⟩

end Document

end FlowGraph
