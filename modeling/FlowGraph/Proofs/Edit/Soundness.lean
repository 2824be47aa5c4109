/-
# Documents stay sound under editing

A sound document satisfies every structural rule: ids are distinct, no connection is drawn twice,
edges join existing nodes whose types allow it, and no path returns to its start. Each of the five
things that an edit does to the graph keeps all of this, so soundness holds along every run of
edits, whichever of them fail. A sound document has no structural faults and its stages can be
computed.
-/

import FlowGraph.Proofs.Edit.Outline
import FlowGraph.Proofs.Fields
import FlowGraph.Proofs.Depth

namespace FlowGraph

open Arrows Relation

namespace Document

/-- The document satisfies the structural rules, including those that only the guard enforces. -/
structure Sound (document : Document) : Prop where
  nodes_distinct : document.nodeIds.Nodup
  edges_distinct : (document.edges.map Edge.id).Nodup
  connections_distinct :
    (document.edges.map fun edge => (edge.source, edge.target, edge.handle)).Nodup
  ends_exist : ∀ edge ∈ document.edges,
    edge.source ∈ document.nodeIds ∧ edge.target ∈ document.nodeIds
  ends_admit : ∀ edge ∈ document.edges, ∀ node ∈ document.nodes,
    (node.id = edge.target → node.isSourceOnly = false) ∧
      (node.id = edge.source → node.isTerminalOnly = false)
  acyclic : Acyclic document.arrows

variable {document next : Document}

theorem Sound.of_no_edges (hids : document.nodeIds.Nodup) (hedges : document.edges = []) :
    document.Sound where
  nodes_distinct := hids
  edges_distinct := by simp [hedges]
  connections_distinct := by simp [hedges]
  ends_exist := by simp [hedges]
  ends_admit := by simp [hedges]
  acyclic := by
    rw [arrows, hedges]
    exact acyclic_nil

theorem sound_blank (name : String) : (blank name).Sound :=
  Sound.of_no_edges (by simp [blank, nodeIds]) rfl

theorem sound_empty (hnodes : document.nodes = []) (hedges : document.edges = []) :
    document.Sound :=
  Sound.of_no_edges (by simp [nodeIds, hnodes]) hedges

theorem Sound.of_sameGraph (hsound : document.Sound) (hsame : SameGraph document next) :
    next.Sound where
  nodes_distinct := hsame.nodeIds_eq ▸ hsound.nodes_distinct
  edges_distinct := hsame.edges_eq ▸ hsound.edges_distinct
  connections_distinct := hsame.edges_eq ▸ hsound.connections_distinct
  ends_exist := by
    rw [hsame.edges_eq, hsame.nodeIds_eq]
    exact hsound.ends_exist
  ends_admit := by
    rw [hsame.edges_eq]
    intro edge hedge node hnode
    have houtline : (node.id, node.type) ∈ document.outline :=
      hsame.outline_eq ▸ mem_outline_iff.mpr ⟨node, hnode, rfl, rfl⟩
    obtain ⟨original, horiginal, hid, htype⟩ := mem_outline_iff.mp houtline
    have hspare := hsound.ends_admit edge hedge original horiginal
    simpa only [Node.isSourceOnly, Node.isTerminalOnly, Node.kind?, hid, htype] using hspare
  acyclic := by
    rw [arrows, hsame.edges_eq]
    exact hsound.acyclic

/-- Leaving out nodes and edges keeps a document sound as long as no edge loses an end. -/
theorem Sound.of_sublist (hsound : document.Sound)
    (hnodes : next.nodes.Sublist document.nodes) (hedges : next.edges.Sublist document.edges)
    (hends : ∀ edge ∈ next.edges, edge.source ∈ next.nodeIds ∧ edge.target ∈ next.nodeIds) :
    next.Sound where
  nodes_distinct := hsound.nodes_distinct.sublist (hnodes.map _)
  edges_distinct := hsound.edges_distinct.sublist (hedges.map _)
  connections_distinct := hsound.connections_distinct.sublist (hedges.map _)
  ends_exist := hends
  ends_admit := fun edge hedge node hnode =>
    hsound.ends_admit edge (hedges.subset hedge) node (hnodes.subset hnode)
  acyclic := hsound.acyclic.of_subset (hedges.map _).subset

theorem Sound.add_node (hsound : document.Sound) {node : Node}
    (hfresh : node.id ∉ document.nodeIds) :
    (document.withNodes (document.nodes ++ [node])).Sound where
  nodes_distinct := by
    simpa [nodeIds, withNodes] using hsound.nodes_distinct.concat hfresh
  edges_distinct := hsound.edges_distinct
  connections_distinct := hsound.connections_distinct
  ends_exist := by
    intro edge hedge
    obtain ⟨hsource, htarget⟩ := hsound.ends_exist edge hedge
    simp only [nodeIds, withNodes, List.map_append, List.mem_append] at hsource htarget ⊢
    exact ⟨Or.inl hsource, Or.inl htarget⟩
  ends_admit := by
    intro edge hedge other hother
    rcases List.mem_append.mp hother with hold | hnew
    · exact hsound.ends_admit edge hedge other hold
    · obtain rfl := List.mem_singleton.mp hnew
      -- no edge touches a node whose id is new
      obtain ⟨hsource, htarget⟩ := hsound.ends_exist edge hedge
      exact ⟨fun hid => absurd (hid ▸ htarget) hfresh, fun hid => absurd (hid ▸ hsource) hfresh⟩
  acyclic := hsound.acyclic

theorem Sound.remove_node (hsound : document.Sound) (nodeId : String) :
    Sound { document with
      nodes := document.nodes.filter fun node => node.id ≠ nodeId
      edges := document.edges.filter fun edge =>
        edge.source ≠ nodeId && edge.target ≠ nodeId } := by
  refine hsound.of_sublist List.filter_sublist List.filter_sublist fun edge hedge => ?_
  obtain ⟨hedge, hkept⟩ := List.mem_filter.mp hedge
  obtain ⟨hsource, htarget⟩ : edge.source ≠ nodeId ∧ edge.target ≠ nodeId := by simpa using hkept
  have hremains (id : String) (hid : id ∈ document.nodeIds) (hother : id ≠ nodeId) :
      id ∈ (document.nodes.filter fun node => node.id ≠ nodeId).map Node.id := by
    obtain ⟨node, hnode, rfl⟩ := mem_nodeIds_iff.mp hid
    exact List.mem_map_of_mem (List.mem_filter.mpr ⟨hnode, by simpa using hother⟩)
  obtain ⟨hsourceOld, htargetOld⟩ := hsound.ends_exist edge hedge
  exact ⟨hremains _ hsourceOld hsource, hremains _ htargetOld htarget⟩

theorem Sound.add_edge (hsound : document.Sound) {edge : Edge}
    (hadmitted : (Connection.validate document edge.source edge.target).allow = true)
    (hnew : ∀ other ∈ document.edges, ¬ (other.source = edge.source ∧
      other.target = edge.target ∧ other.handle = edge.handle))
    (hfresh : edge.id ∉ document.edges.map Edge.id) :
    (document.withEdges (document.edges ++ [edge])).Sound := by
  obtain ⟨source, target, hsource, htarget, hsourceOnly, hterminalOnly, hback⟩ :=
    Connection.validate_allow_iff.mp hadmitted
  obtain ⟨hsourceMem, hsourceId⟩ := mem_of_node? hsource
  obtain ⟨htargetMem, htargetId⟩ := mem_of_node? htarget
  have hcase {P : Edge → Prop} (hold : ∀ other ∈ document.edges, P other) (hlast : P edge) :
      ∀ other ∈ document.edges ++ [edge], P other := by
    simpa [or_imp, forall_and] using And.intro hold hlast
  constructor
  · exact hsound.nodes_distinct
  · simpa [withEdges] using hsound.edges_distinct.concat hfresh
  · have hconnection : (edge.source, edge.target, edge.handle) ∉
        document.edges.map fun other => (other.source, other.target, other.handle) := by
      simpa using hnew
    simpa [withEdges] using hsound.connections_distinct.concat hconnection
  · refine hcase hsound.ends_exist ⟨?_, ?_⟩
    · exact hsourceId ▸ List.mem_map_of_mem hsourceMem
    · exact htargetId ▸ List.mem_map_of_mem htargetMem
  · refine hcase hsound.ends_admit fun node hnode => ⟨fun hid => ?_, fun hid => ?_⟩
    · rw [node_eq_of_id_eq hsound.nodes_distinct hnode htargetMem (hid.trans htargetId.symm)]
      exact hsourceOnly
    · rw [node_eq_of_id_eq hsound.nodes_distinct hnode hsourceMem (hid.trans hsourceId.symm)]
      exact hterminalOnly
  · have harrows : (document.withEdges (document.edges ++ [edge])).arrows =
        document.arrows ++ [(edge.source, edge.target)] := by
      simp [arrows, withEdges, Edge.ends]
    rw [harrows]
    exact acyclic_append_arrow_iff.mpr ⟨hsound.acyclic, hback⟩

/-- Nothing that an edit does to the graph makes a sound document unsound. -/
theorem Sound.change (hsound : document.Sound) (hchange : Edit.Change document next) :
    next.Sound := by
  cases hchange with
  | content hsame => exact hsound.of_sameGraph hsame
  | node hfresh => exact hsound.add_node hfresh
  | removal nodeId => exact hsound.remove_node nodeId
  | edge hadmitted hnew hfresh hsame =>
      exact (hsound.add_edge hadmitted hnew hfresh).of_sameGraph hsame
  | disconnection edgeId =>
      exact hsound.of_sublist (List.Sublist.refl _) List.filter_sublist fun edge hedge =>
        hsound.ends_exist edge (List.mem_filter.mp hedge).1

/-- The document after a command; one that fails leaves it as it was. -/
def perform (document : Document) (command : Command) : Document :=
  match command.run document with
  | .ok next => next
  | .error _ => document

/-- The document after a series of commands. -/
def performAll (document : Document) (commands : List Command) : Document :=
  commands.foldl perform document

theorem Sound.perform (hsound : document.Sound) {command : Command} (hedit : command.IsEdit) :
    (document.perform command).Sound := by
  rw [Document.perform]
  cases hrun : command.run document with
  | error cause => exact hsound
  | ok next => exact hsound.change (Command.change_of_run hsound.nodes_distinct hedit hrun)

theorem Sound.performAll (hsound : document.Sound) {commands : List Command}
    (hedits : ∀ command ∈ commands, command.IsEdit) : (document.performAll commands).Sound := by
  induction commands generalizing document with
  | nil => exact hsound
  | cons command rest ih =>
      obtain ⟨hedit, hrest⟩ := List.forall_mem_cons.mp hedits
      exact ih (hsound.perform hedit) hrest

end Document

/-- Nothing repeats exactly when the ids are distinct and none of them was seen. -/
theorem repeatedIds_eq_nil_iff {seen ids : List String} :
    repeatedIds seen ids = [] ↔ ids.Nodup ∧ ∀ id ∈ ids, id ∉ seen := by
  induction ids generalizing seen with
  | nil => simp [repeatedIds]
  | cons id rest ih =>
      by_cases hseen : id ∈ seen
      · simp [repeatedIds, hseen]
      · rw [repeatedIds, if_neg (by simpa using hseen), ih, List.nodup_cons, List.forall_mem_cons]
        constructor
        · rintro ⟨hrest, hfresh⟩
          have hnew : id ∉ rest := fun hmem => hfresh id hmem List.mem_cons_self
          exact ⟨⟨hnew, hrest⟩, hseen,
            fun other hother hold => hfresh other hother (List.mem_cons_of_mem _ hold)⟩
        · rintro ⟨⟨hnew, hrest⟩, -, hfresh⟩
          refine ⟨hrest, fun other hother hmem => ?_⟩
          rcases List.mem_cons.mp hmem with rfl | hold
          · exact hnew hother
          · exact hfresh other hother hold

/-- An edge that breaks no rule joins nodes that exist and whose types allow it. -/
theorem Edge.structureFaults_eq_nil_iff {table : Fields Node} {edge : Edge} :
    edge.structureFaults table = [] ↔
      ∃ source target, Fields.get? table edge.source = some source ∧
        Fields.get? table edge.target = some target ∧
        target.isSourceOnly = false ∧ source.isTerminalOnly = false := by
  rw [structureFaults]
  split
  · next hsource => simp [hsource]
  · next hsource htarget => simp [htarget]
  · next source target hsource htarget => simp [hsource, htarget]

namespace Document

variable {document : Document}

/-- With distinct ids the table of nodes holds every node under its id. -/
theorem get?_nodeTable_iff (hids : document.nodeIds.Nodup) {id : String} {node : Node} :
    Fields.get? document.nodeTable id = some node ↔ node ∈ document.nodes ∧ node.id = id := by
  have hkeys : (Fields.keys (document.nodes.map fun node => (node.id, node))).Nodup := by
    simpa [Fields.keys, nodeIds, Function.comp_def] using hids
  rw [nodeTable, Fields.get?_ofPairs_eq_some_iff_mem hkeys, List.mem_map]
  constructor
  · rintro ⟨other, hother, heq⟩
    cases heq
    exact ⟨hother, rfl⟩
  · rintro ⟨hnode, rfl⟩
    exact ⟨node, hnode, rfl⟩

/-- An edge between nodes that exist and admit it breaks no rule. -/
theorem edge_structureFaults_eq_nil (hids : document.nodeIds.Nodup) {edge : Edge}
    (hends : edge.source ∈ document.nodeIds ∧ edge.target ∈ document.nodeIds)
    (hspare : ∀ node ∈ document.nodes,
      (node.id = edge.target → node.isSourceOnly = false) ∧
        (node.id = edge.source → node.isTerminalOnly = false)) :
    edge.structureFaults document.nodeTable = [] := by
  obtain ⟨source, hsource, hsourceId⟩ := mem_nodeIds_iff.mp hends.1
  obtain ⟨target, htarget, htargetId⟩ := mem_nodeIds_iff.mp hends.2
  apply Edge.structureFaults_eq_nil_iff.mpr
  exact ⟨source, target, (get?_nodeTable_iff hids).mpr ⟨hsource, hsourceId⟩,
    (get?_nodeTable_iff hids).mpr ⟨htarget, htargetId⟩,
    (hspare target htarget).1 htargetId, (hspare source hsource).2 hsourceId⟩

theorem structureFaults_eq_nil (hids : document.nodeIds.Nodup)
    (hends : ∀ edge ∈ document.edges,
      edge.source ∈ document.nodeIds ∧ edge.target ∈ document.nodeIds)
    (hspare : ∀ edge ∈ document.edges, ∀ node ∈ document.nodes,
      (node.id = edge.target → node.isSourceOnly = false) ∧
        (node.id = edge.source → node.isTerminalOnly = false)) :
    document.structureFaults = [] := by
  have hrepeated : repeatedIds [] document.nodeIds = [] :=
    repeatedIds_eq_nil_iff.mpr ⟨hids, by simp⟩
  have hedges : ∀ edge ∈ document.edges, edge.structureFaults document.nodeTable = [] :=
    fun edge hedge => edge_structureFaults_eq_nil hids (hends edge hedge) (hspare edge hedge)
  simpa [structureFaults, hrepeated] using hedges

theorem Sound.structureFaults_eq_nil (hsound : document.Sound) :
    document.structureFaults = [] :=
  Document.structureFaults_eq_nil hsound.nodes_distinct hsound.ends_exist hsound.ends_admit

theorem Sound.exists_stages (hsound : document.Sound) :
    ∃ stages, Stage.computeStrict document.nodes document.edges = .ok stages :=
  Stage.exists_computeStrict_eq_ok hsound.nodes_distinct hsound.acyclic

/-- Whatever edits are made to a new or an empty document, in whatever order and whichever of them
fail, the document is sound, has no structural faults, and its stages can be computed. -/
theorem sound_of_edits {start : Document}
    (hstart : (∃ name, start = blank name) ∨ start.nodes = [] ∧ start.edges = [])
    {commands : List Command} (hedits : ∀ command ∈ commands, command.IsEdit) :
    (start.performAll commands).Sound ∧ (start.performAll commands).structureFaults = [] ∧
      ∃ stages, Stage.computeStrict (start.performAll commands).nodes
        (start.performAll commands).edges = .ok stages := by
  have hsound : (start.performAll commands).Sound := by
    refine Sound.performAll ?_ hedits
    rcases hstart with ⟨name, rfl⟩ | ⟨hnodes, hedges⟩
    · exact sound_blank name
    · exact sound_empty hnodes hedges
  exact ⟨hsound, hsound.structureFaults_eq_nil, hsound.exists_stages⟩

/-- A step after the trigger, the edge between them, and the edge back, which is refused. -/
theorem sound_of_three_edits :
    ((blank "Draft").performAll [.addNode { type := "ai" }, .connect "trigger_1" "ai_1" none,
        .connect "ai_1" "trigger_1" none]).arrows = [("trigger_1", "ai_1")] ∧
      ((blank "Draft").performAll [.addNode { type := "ai" }, .connect "trigger_1" "ai_1" none,
        .connect "ai_1" "trigger_1" none]).Sound := by
  refine ⟨by decide +kernel, (sound_of_edits (Or.inl ⟨"Draft", rfl⟩) ?_).1⟩
  simp [Command.IsEdit]

end Document

end FlowGraph
