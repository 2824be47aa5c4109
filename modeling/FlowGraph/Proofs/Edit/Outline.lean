/-
# What an edit does to the graph

The structural rules read only the ids and types of the nodes, their order, and the edges. Seen
that way the commands do five things: leave the graph alone, append a node with a fresh id, remove
a node with its edges, append an edge that the guard admits, and remove the edges of an id. This
module says so once for every command, so that a property of the graph is shown to survive edits by
five cases and never by looking into a command again. Replacing the whole document is the one
command outside this account.
-/

import FlowGraph.Edit.Command
import FlowGraph.Proofs.Fields
import FlowGraph.Proofs.Guard
import FlowGraph.Proofs.Naming

namespace FlowGraph

universe u v

/-- A sequence of two operations succeeds only if both do. -/
theorem exists_of_bind_eq_ok {ε : Type u} {α : Type v} {β : Type v} {first : Except ε α}
    {second : α → Except ε β} {result : β} (hok : (first >>= second) = .ok result) :
    ∃ a, first = .ok a ∧ second a = .ok result := by
  cases first with
  | error cause => cases hok
  | ok a => exact ⟨a, rfl, hok⟩

/-- What is made of a result is there only if the result is. -/
theorem exists_of_map_eq_ok {ε : Type u} {α : Type v} {β : Type v} {f : α → β}
    {operation : Except ε α} {result : β} (hok : f <$> operation = .ok result) :
    ∃ a, operation = .ok a ∧ f a = result := by
  cases operation with
  | error cause => cases hok
  | ok a =>
      cases hok
      exact ⟨a, rfl, rfl⟩

namespace Document

/-- The ids and types of the nodes in order. -/
def outline (document : Document) : List (String × String) :=
  document.nodes.map fun node => (node.id, node.type)

/-- The two documents have the same graph: nodes of the same ids and types, and the same edges. -/
structure SameGraph (document next : Document) : Prop where
  outline_eq : next.outline = document.outline
  edges_eq : next.edges = document.edges

variable {document next last : Document}

@[simp]
theorem nodeIds_withEdges (edges : List Edge) :
    (document.withEdges edges).nodeIds = document.nodeIds := rfl

theorem SameGraph.refl (document : Document) : SameGraph document document := ⟨rfl, rfl⟩

theorem SameGraph.trans (hfirst : SameGraph document next) (hsecond : SameGraph next last) :
    SameGraph document last :=
  ⟨hsecond.outline_eq.trans hfirst.outline_eq, hsecond.edges_eq.trans hfirst.edges_eq⟩

theorem map_fst_outline (document : Document) :
    document.outline.map Prod.fst = document.nodeIds := by
  simp [outline, nodeIds]

theorem SameGraph.nodeIds_eq (hsame : SameGraph document next) :
    next.nodeIds = document.nodeIds := by
  rw [← map_fst_outline, ← map_fst_outline, hsame.outline_eq]

theorem mem_outline_iff {id type : String} :
    (id, type) ∈ document.outline ↔ ∃ node ∈ document.nodes, node.id = id ∧ node.type = type := by
  simp [outline]

theorem mem_nodeIds_iff {id : String} :
    id ∈ document.nodeIds ↔ ∃ node ∈ document.nodes, node.id = id :=
  List.mem_map

theorem mem_of_node? {id : String} {node : Node} (hfound : document.node? id = some node) :
    node ∈ document.nodes ∧ node.id = id :=
  ⟨List.mem_of_find?_eq_some hfound, by simpa using List.find?_some hfound⟩

theorem isSome_node?_iff {id : String} : (document.node? id).isSome ↔ id ∈ document.nodeIds := by
  simp [node?, nodeIds]

theorem requireNode_eq_ok_iff {id : String} {node : Node} :
    document.requireNode id = .ok node ↔ document.node? id = some node := by
  unfold requireNode
  cases document.node? id <;> simp

/-- With distinct ids a node is determined by its id. -/
theorem node_eq_of_id_eq (hids : document.nodeIds.Nodup) {first second : Node}
    (hfirst : first ∈ document.nodes) (hsecond : second ∈ document.nodes)
    (hid : first.id = second.id) : first = second :=
  List.inj_on_of_nodup_map hids hfirst hsecond hid

/-- With distinct ids every node is found by its id. -/
theorem node?_of_mem (hids : document.nodeIds.Nodup) {node : Node} (hnode : node ∈ document.nodes) :
    document.node? node.id = some node := by
  have hsome : (document.node? node.id).isSome :=
    isSome_node?_iff.mpr (List.mem_map_of_mem hnode)
  obtain ⟨found, hfound⟩ := Option.isSome_iff_exists.mp hsome
  obtain ⟨hmem, hid⟩ := mem_of_node? hfound
  rw [hfound, node_eq_of_id_eq hids hmem hnode hid]

/-- The stages are told by the ids and types of the nodes and by the edges. -/
theorem SameGraph.stages_eq (hsame : SameGraph document next) :
    next.stages = document.stages := by
  have hstaged (document : Document) :
      Stage.stagedIds document.nodes =
        (document.outline.filter fun pair =>
          !(Catalog.type? pair.2).any NodeType.annotationOnly).map Prod.fst := by
    rw [Stage.stagedIds, outline, List.filter_map, List.map_map]
    rfl
  rw [stages, stages, Stage.compute, Stage.compute, hstaged next, hstaged document,
    hsame.outline_eq, hsame.edges_eq]

section Rewritten

variable (f : Node → Node) (hid : ∀ node, (f node).id = node.id)

include hid

theorem nodeIds_withNodes_map :
    (document.withNodes (document.nodes.map f)).nodeIds = document.nodeIds := by
  have hsame : Node.id ∘ f = Node.id := funext hid
  rw [nodeIds, nodeIds, withNodes, List.map_map, hsame]

theorem get?_nodeTable_withNodes_map (id : String) :
    Fields.get? (document.withNodes (document.nodes.map f)).nodeTable id =
      (Fields.get? document.nodeTable id).map f := by
  rw [nodeTable, nodeTable, ← Fields.get?_ofPairs_mapValues, Fields.mapValues, List.map_map,
    withNodes, List.map_map]
  simp only [Function.comp_def, hid]

theorem stages_withNodes_map (htype : ∀ node, (f node).type = node.type) :
    (document.withNodes (document.nodes.map f)).stages = document.stages := by
  apply SameGraph.stages_eq
  refine ⟨?_, rfl⟩
  simp only [outline, withNodes, List.map_map, Function.comp_def, hid, htype]

end Rewritten

/-- A node put in place of one with its id and type leaves the graph as it is. -/
theorem sameGraph_replaceNode (hids : document.nodeIds.Nodup) {node : Node}
    (hnode : (node.id, node.type) ∈ document.outline) :
    SameGraph document (document.replaceNode node) := by
  obtain ⟨original, horiginal, hid, htype⟩ := mem_outline_iff.mp hnode
  refine ⟨?_, rfl⟩
  simp only [outline, replaceNode, withNodes, List.map_map]
  refine List.map_congr_left fun other hother => ?_
  by_cases hsame : other.id = node.id
  · obtain rfl : other = original := node_eq_of_id_eq hids hother horiginal (hsame.trans hid.symm)
    simp [hsame, htype]
  · simp [hsame]

/-- Nodes were put in place of others, one after another, each under an id and a type that a node of
the document has. -/
inductive Overwritten (document : Document) : Document → Prop
  | refl : Overwritten document document
  | replace {next : Document} {node : Node} (hnext : Overwritten document next)
      (hnode : (node.id, node.type) ∈ document.outline) :
      Overwritten document (next.replaceNode node)

/-- Several nodes may have one id, and then their types may change, but the ids never do. -/
theorem Overwritten.nodeIds_eq (hnext : Overwritten document next) :
    next.nodeIds = document.nodeIds := by
  induction hnext with
  | refl => rfl
  | @replace next node hnext hnode ih =>
      rw [← ih, replaceNode]
      refine nodeIds_withNodes_map _ fun other => ?_
      split
      · rename_i hid
        exact hid.symm
      · rfl

theorem Overwritten.edges_eq (hnext : Overwritten document next) : next.edges = document.edges := by
  induction hnext with
  | refl => rfl
  | replace hnext hnode ih => exact ih

theorem Overwritten.sameGraph (hnext : Overwritten document next) (hids : document.nodeIds.Nodup) :
    SameGraph document next := by
  induction hnext with
  | refl => exact SameGraph.refl document
  | replace hnext hnode ih =>
      exact ih.trans (sameGraph_replaceNode (ih.nodeIds_eq ▸ hids) (ih.outline_eq ▸ hnode))

theorem Overwritten.outline_subset (hnext : Overwritten document next) :
    next.outline ⊆ document.outline := by
  induction hnext with
  | refl => exact List.Subset.refl _
  | @replace next node hnext hnode ih =>
      rintro ⟨id, type⟩ hmem
      obtain ⟨other, hother, rfl, rfl⟩ := mem_outline_iff.mp hmem
      obtain ⟨old, hold, rfl⟩ := List.mem_map.mp hother
      split
      · exact hnode
      · exact ih (mem_outline_iff.mpr ⟨old, hold, rfl, rfl⟩)

theorem Overwritten.trans (hnext : Overwritten document next) (hlast : Overwritten next last) :
    Overwritten document last := by
  induction hlast with
  | refl => exact hnext
  | replace hlast hnode ih => exact ih.replace (hnext.outline_subset hnode)

end Document

namespace Mapping

open Document

variable {document : Document}

theorem overwritten_mapNode (stages : Fields Int) (force : Bool) {edited : Option Document}
    (hedited : Overwritten document (edited.getD document)) {target : Node}
    (htarget : target ∈ document.nodes) :
    Overwritten document ((mapNode document stages force edited target).getD document) := by
  simp only [mapNode]
  split
  · exact hedited.replace (mem_outline_iff.mpr ⟨target, htarget, rfl, rfl⟩)
  · exact hedited

theorem overwritten_mapAll (force : Bool) :
    Overwritten document ((mapAll document force).getD document) := by
  have hfold (targets : List Node) (htargets : ∀ target ∈ targets, target ∈ document.nodes)
      (edited : Option Document) (hedited : Overwritten document (edited.getD document)) :
      Overwritten document
        ((targets.foldl (mapNode document document.stages force) edited).getD document) := by
    induction targets generalizing edited with
    | nil => exact hedited
    | cons target rest ih =>
        exact ih (fun other hother => htargets other (List.mem_cons_of_mem _ hother)) _
          (overwritten_mapNode _ force hedited (htargets target List.mem_cons_self))
  exact hfold _ (fun target htarget => (List.mem_filter.mp htarget).1) none Overwritten.refl

/-- Mapping inputs overwrites nodes and does nothing else to a document. -/
theorem overwritten_autoMap {nodeId : Option String} {force : Bool} {changed : Option Document}
    (hok : autoMap document nodeId force = .ok changed) :
    Overwritten document (changed.getD document) := by
  cases nodeId with
  | none =>
      obtain rfl : mapAll document force = changed := by simpa [autoMap] using hok
      exact overwritten_mapAll force
  | some id =>
      obtain ⟨target, htarget, hmap⟩ := exists_of_bind_eq_ok hok
      obtain rfl : mapNode document document.stages force none target = changed := by
        simpa [pure, Except.pure] using hmap
      have hmem := (mem_of_node? (requireNode_eq_ok_iff.mp htarget)).1
      exact overwritten_mapNode _ force Overwritten.refl hmem

theorem overwritten_mapFromSource {target source : String} {changed : Option Document}
    (hok : mapFromSource document target source = .ok changed) :
    Overwritten document (changed.getD document) := by
  obtain ⟨targetNode, htarget, hok⟩ := exists_of_bind_eq_ok hok
  obtain ⟨sourceNode, -, hok⟩ := exists_of_bind_eq_ok hok
  have hmem := (mem_of_node? (requireNode_eq_ok_iff.mp htarget)).1
  simp only at hok
  split at hok
  · cases hok
    exact Overwritten.refl.replace (mem_outline_iff.mpr ⟨targetNode, hmem, rfl, rfl⟩)
  · cases hok
    exact Overwritten.refl

end Mapping

namespace Edit

open Document

/-- What an edit does to the graph of a document. -/
inductive Change (document : Document) : Document → Prop
  | content {next : Document} (hsame : SameGraph document next) : Change document next
  | node {node : Node} (hfresh : node.id ∉ document.nodeIds) :
      Change document (document.withNodes (document.nodes ++ [node]))
  | removal (nodeId : String) :
      Change document
        { document with
          nodes := document.nodes.filter fun node => node.id ≠ nodeId
          edges := document.edges.filter fun edge => edge.source ≠ nodeId && edge.target ≠ nodeId }
  | edge {edge : Edge} {next : Document}
      (hadmitted : (Connection.validate document edge.source edge.target).allow = true)
      (hnew : ∀ other ∈ document.edges, ¬ (other.source = edge.source ∧
        other.target = edge.target ∧ other.handle = edge.handle))
      (hfresh : edge.id ∉ document.edges.map Edge.id)
      (hsame : SameGraph (document.withEdges (document.edges ++ [edge])) next) :
      Change document next
  | disconnection (edgeId : String) :
      Change document (document.withEdges (document.edges.filter fun edge => edge.id ≠ edgeId))

variable {document next : Document}

theorem change_addNode {new : NewNode} (hok : addNode document new = .ok next) :
    Change document next := by
  obtain ⟨type, -, hok⟩ := exists_of_bind_eq_ok hok
  obtain ⟨label, -, hok⟩ := exists_of_bind_eq_ok hok
  simp only at hok
  split at hok
  · cases hok
  · rename_i hfree
    cases hok
    exact Change.node fun hmem => hfree (isSome_node?_iff.mpr hmem)

theorem change_duplicateNode {nodeId : String} (hok : duplicateNode document nodeId = .ok next) :
    Change document next := by
  obtain ⟨model, -, hok⟩ := exists_of_bind_eq_ok hok
  obtain ⟨label, -, hok⟩ := exists_of_bind_eq_ok hok
  cases hok
  exact Change.node (Naming.nextNodeId_not_mem _ _)

@[simp]
theorem patched_id (patch : Patch) (node : Node) (data : NodeData) :
    (patched patch node data).id = node.id := rfl

@[simp]
theorem patched_type (patch : Patch) (node : Node) (data : NodeData) :
    (patched patch node data).type = node.type := rfl

@[simp]
theorem fitted_id (document : Document) (patch : Patch) (updated : Node) :
    (fitted document patch updated).id = updated.id := by
  unfold fitted
  split <;> rfl

@[simp]
theorem fitted_type (document : Document) (patch : Patch) (updated : Node) :
    (fitted document patch updated).type = updated.type := by
  unfold fitted
  split <;> rfl

theorem overwritten_patchNode {patch : Patch} (hok : patchNode document patch = .ok next) :
    Overwritten document next := by
  obtain ⟨node, hnode, hok⟩ := exists_of_bind_eq_ok hok
  obtain ⟨data, -, hok⟩ := exists_of_bind_eq_ok hok
  have hmem := (mem_of_node? (requireNode_eq_ok_iff.mp hnode)).1
  have hreplace (updated : Node) (hid : updated.id = node.id) (htype : updated.type = node.type) :
      Overwritten document (document.replaceNode updated) :=
    Overwritten.refl.replace (mem_outline_iff.mpr ⟨node, hmem, hid.symm, htype.symm⟩)
  simp only at hok
  split at hok
  · cases hok
    exact hreplace _ (patched_id ..) (patched_type ..)
  · have hfitted := hreplace (fitted document patch (patched patch node data)) (by simp) (by simp)
    split at hok
    · cases hok
      exact hfitted
    · obtain ⟨mapped, hmapped, hok⟩ := exists_of_bind_eq_ok hok
      cases hok
      exact hfitted.trans (Mapping.overwritten_autoMap hmapped)

theorem change_deleteNode {nodeId : String} (hok : deleteNode document nodeId = .ok next) :
    Change document next := by
  obtain ⟨node, -, hok⟩ := exists_of_bind_eq_ok hok
  cases hok
  exact Change.removal nodeId

/-- Connecting changes nothing, or appends an edge that is admitted and new. -/
theorem connect_cases {source target : String} {handle : Option String} {changed : Option Document}
    (hok : connect document source target handle = .ok changed) :
    changed.getD document = document ∨
      ∃ edge : Edge, (Connection.validate document edge.source edge.target).allow = true ∧
        (∀ other ∈ document.edges, ¬ (other.source = edge.source ∧
          other.target = edge.target ∧ other.handle = edge.handle)) ∧
        edge.id ∉ document.edges.map Edge.id ∧
        Overwritten (document.withEdges (document.edges ++ [edge])) (changed.getD document) := by
  simp only [connect] at hok
  split at hok
  · cases hok
  · rename_i hverdict
    split at hok
    · cases hok
      exact Or.inl rfl
    · rename_i hrepeated
      obtain ⟨mapped, hmapped, hok⟩ := exists_of_bind_eq_ok hok
      cases hok
      refine Or.inr ⟨_, ?_, ?_, ?_, Mapping.overwritten_mapFromSource hmapped⟩
      · simpa using hverdict
      · rintro other hother ⟨hsource, htarget, hhandle⟩
        refine hrepeated (List.any_eq_true.mpr ⟨other, hother, ?_⟩)
        simp [hsource, htarget, hhandle]
      · exact Naming.nextEdgeId_not_mem source target handle (document.edges.map Edge.id)

theorem change_connect (hids : document.nodeIds.Nodup) {source target : String}
    {handle : Option String} {changed : Option Document}
    (hok : connect document source target handle = .ok changed) :
    Change document (changed.getD document) := by
  rcases connect_cases hok with hsame | ⟨edge, hadmitted, hnew, hfresh, hmapped⟩
  · rw [hsame]
    exact Change.content (SameGraph.refl document)
  · exact Change.edge hadmitted hnew hfresh (hmapped.sameGraph (by simpa using hids))

theorem change_disconnect (edgeId : String) :
    Change document ((disconnect document edgeId).getD document) := by
  simp only [disconnect]
  split
  · exact Change.content (SameGraph.refl _)
  · exact Change.disconnection edgeId

end Edit

namespace Command

/-- The command edits the document at hand; replacing it is the only one that does not. -/
def IsEdit : Command → Prop
  | replace _ => False
  | _ => True

/-- What a command leads to is what it changes the document to, if it changes it. -/
theorem exists_of_run {document next : Document} {command : Command}
    (hok : command.run document = .ok next) :
    ∃ changed, command.apply document = .ok changed ∧ changed.getD document = next := by
  rw [run] at hok
  cases happlied : command.apply document with
  | error cause =>
      rw [happlied] at hok
      cases hok
  | ok changed =>
      rw [happlied] at hok
      cases hok
      exact ⟨changed, rfl, rfl⟩

/-- Every edit that succeeds does one of the five things to the graph. -/
theorem change_of_run {document next : Document} (hids : document.nodeIds.Nodup)
    {command : Command} (hedit : command.IsEdit) (hok : command.run document = .ok next) :
    Edit.Change document next := by
  obtain ⟨changed, happlied, rfl⟩ := exists_of_run hok
  cases command with
  | addNode new =>
      obtain ⟨result, hresult, rfl⟩ := exists_of_map_eq_ok happlied
      exact Edit.change_addNode hresult
  | duplicateNode nodeId =>
      obtain ⟨result, hresult, rfl⟩ := exists_of_map_eq_ok happlied
      exact Edit.change_duplicateNode hresult
  | patchNode patch =>
      obtain ⟨result, hresult, rfl⟩ := exists_of_map_eq_ok happlied
      exact Edit.Change.content ((Edit.overwritten_patchNode hresult).sameGraph hids)
  | deleteNode nodeId =>
      obtain ⟨result, hresult, rfl⟩ := exists_of_map_eq_ok happlied
      exact Edit.change_deleteNode hresult
  | connect source target handle => exact Edit.change_connect hids happlied
  | disconnect edgeId =>
      cases happlied
      exact Edit.change_disconnect edgeId
  | autoMap nodeId force =>
      exact Edit.Change.content ((Mapping.overwritten_autoMap happlied).sameGraph hids)
  | rename name =>
      cases happlied
      exact Edit.Change.content ⟨rfl, rfl⟩
  | replace other => exact hedit.elim

end Command

end FlowGraph
