/-
# What an edit leaves alone

Every edit names what it is about, and the rest of the document stays as it is. A node that is
rebuilt has its position settled on the way, which changes none of its coordinates. So where a node
may have been rebuilt it is compared with the settled node, and where it may not, with the node
itself. A rebuilding may also read the bindings of the node once more. Bindings with trimmed and
distinct slots come back from that as they are, and along every run of edits all bindings stay such.

The order of what remains is compared through ids for the nodes, since a node may be rewritten, and
through the records for the edges, since an edge never is.
-/

import FlowGraph.Proofs.Edit.Patch

namespace FlowGraph

/-- The nodes agree except in their bindings, whose slots stay trimmed and distinct. -/
structure Node.AgreesOffBindings (node after : Node) : Prop where
  settled_eq : after.settled = node.withBindings after.bindings
  keyed : Binding.Keyed node.bindings → Binding.Keyed after.bindings

/-- The node after a patch differs from the one before in the fields that the patch gives, and
where the mode changes in what the mode decides and in the bindings. -/
structure Patch.Confined (patch : Patch) (node after : Node) : Prop where
  id_eq : after.id = node.id
  type_eq : after.type = node.type
  label_eq : after.label = patch.label.getD node.label
  coordinates_eq : after.coordinates = patch.position.getD node.coordinates
  mode_eq : after.mode = patch.mode.getD node.mode
  enabled_eq : after.data.enabled = patch.enabled.getD node.data.enabled
  onError_eq : after.data.onError = node.data.onError
  join_eq : after.data.join = node.data.join
  metadata_eq : after.data.metadata = node.data.metadata
  of_same_mode : after.mode = node.mode →
    after.data.ref = node.data.ref ∧ after.data.implemented = node.data.implemented ∧
      after.config = patch.config.getD node.config ∧
        after.bindings = (patch.bindings.map Binding.parsePairs).getD node.bindings
  keyed : Binding.Keyed node.bindings → Binding.Keyed after.bindings

/-- The documents differ at most in their nodes, which correspond one by one. -/
structure Document.Rewritten (document next : Document) (R : Node → Node → Prop) : Prop where
  name_eq : next.name = document.name
  edges_eq : next.edges = document.edges
  nodes : List.Forall₂ R document.nodes next.nodes

/-- The nodes that mapping may touch: the named one, or else those that take part when all are
mapped. -/
def Document.MayMap (document : Document) (nodeId : Option String) (node : Node) : Prop :=
  match nodeId with
  | some id => node.id = id
  | none => Mapping.isMappable node = true ∧ document.edgesTo node.id ≠ []

/-- What a command may do to a document. -/
def Command.Confined (document next : Document) : Command → Prop
  | addNode _ => ∃ node, node.bindings = [] ∧
      next = document.withNodes (document.nodes ++ [node])
  | duplicateNode nodeId => ∃ model copy, document.node? nodeId = some model ∧
      copy.type = model.type ∧ copy.data = model.data ∧
        next = document.withNodes (document.nodes ++ [copy])
  | patchNode patch => document.Rewritten next fun node after =>
      if node.id = patch.nodeId then patch.Confined node after else after = node
  | deleteNode nodeId => ∃ front node back,
      document.nodes = front ++ node :: back ∧ node.id = nodeId ∧
        next = { document with
          nodes := front ++ back
          edges := document.edges.filter fun edge =>
            edge.source ≠ nodeId && edge.target ≠ nodeId }
  | connect source target handle => ∃ drawn : List Edge, drawn.length ≤ 1 ∧
      (∀ edge ∈ drawn, edge.source = source ∧ edge.target = target ∧ edge.handle = handle) ∧
        (document.withEdges (document.edges ++ drawn)).Rewritten next fun node after =>
          after = node ∨ node.id = target ∧ node.AgreesOffBindings after
  | disconnect edgeId =>
      next = document.withEdges (document.edges.filter fun edge => edge.id ≠ edgeId)
  | autoMap nodeId _ => document.Rewritten next fun node after =>
      after = node ∨ document.MayMap nodeId node ∧ node.AgreesOffBindings after
  | rename name => next = { document with name }
  | replace other => next = other

/-- The bindings of every node have trimmed and distinct slots. -/
def Document.Keyed (document : Document) : Prop :=
  ∀ node ∈ document.nodes, Binding.Keyed node.bindings

/-- What remains of the nodes and the edges stands in the order it had. -/
structure Document.KeepsOrder (document next : Document) : Prop where
  nodes : (next.nodeIds.filter fun id => id ∈ document.nodeIds).Sublist document.nodeIds
  edges : (next.edges.filter fun edge => edge ∈ document.edges).Sublist document.edges

/-! ## Nodes that were rewritten -/

theorem Node.AgreesOffBindings.refl (node : Node) : node.AgreesOffBindings node :=
  ⟨rfl, fun hkeyed => hkeyed⟩

theorem Mapping.agreesOffBindings_resolve (node : Node) (sources : List Node) (stages : Fields Int)
    (force : Bool) :
    node.AgreesOffBindings (node.withBindings (resolve node sources stages force).bindings) :=
  ⟨rfl, fun hkeyed => keyed_resolve hkeyed sources stages force⟩

theorem Mapping.agreesOffBindings_mapped (document : Document) (force : Bool) (node : Node) :
    node.AgreesOffBindings (mapped document force node) := by
  rw [mapped]
  split
  · exact agreesOffBindings_resolve node _ _ force
  · exact Node.AgreesOffBindings.refl node

namespace Document

open Mapping

variable {document next : Document} {R : Node → Node → Prop}

theorem Rewritten.refl (document : Document) (hsame : ∀ node, R node node) :
    document.Rewritten document R :=
  ⟨rfl, rfl, List.forall₂_same.mpr fun node _ => hsame node⟩

/-- Every node of a rewritten document was made of a node of the document. -/
theorem Rewritten.exists_of_mem (hrewritten : document.Rewritten next R) {after : Node}
    (hafter : after ∈ next.nodes) : ∃ node ∈ document.nodes, R node after := by
  have hpairs {nodes others : List Node} (hall : List.Forall₂ R nodes others) :
      after ∈ others → ∃ node ∈ nodes, R node after := by
    induction hall with
    | nil => simp
    | @cons node other nodes others hpair _ ih =>
        intro hmem
        rcases List.mem_cons.mp hmem with rfl | hrest
        · exact ⟨node, List.mem_cons_self, hpair⟩
        · obtain ⟨found, hfound, hother⟩ := ih hrest
          exact ⟨found, List.mem_cons_of_mem _ hfound, hother⟩
  exact hpairs hrewritten.nodes hafter

theorem rewritten_withNodes_map {f : Node → Node}
    (hnodes : ∀ node ∈ document.nodes, R node (f node)) :
    document.Rewritten (document.withNodes (document.nodes.map f)) R :=
  ⟨rfl, rfl, List.forall₂_map_right_iff.mpr (List.forall₂_same.mpr hnodes)⟩

/-- With distinct ids, putting a node in place of the one that has its id is one rewriting. -/
theorem rewritten_replaceNode (hids : document.nodeIds.Nodup) {node after : Node}
    (hnode : node ∈ document.nodes) (hid : after.id = node.id) (hafter : R node after)
    (hothers : ∀ other ∈ document.nodes, other.id ≠ node.id → R other other) :
    document.Rewritten (document.replaceNode after) R := by
  apply rewritten_withNodes_map
  intro other hother
  rw [hid]
  split
  · next hsame =>
      obtain rfl := node_eq_of_id_eq hids hother hnode hsame
      exact hafter
  · next hother' => exact hothers other hother hother'

end Document

namespace Edit

open Document Mapping

variable {document next : Document} {patch : Patch} {node : Node} {data : NodeData} {name : String}

/-! ## One command after the other -/

theorem keyed_refitted (document : Document) (patch : Patch)
    (hkeyed : Binding.Keyed node.bindings) :
    Binding.Keyed (refitted document patch node).bindings := by
  have hfitted : Binding.Keyed (fitted document patch node).bindings := by
    rw [fitted]
    split
    · exact hkeyed
    · exact keyed_keptBindings document hkeyed
  rw [refitted]
  split
  · exact hfitted
  · exact (agreesOffBindings_mapped _ _ _).keyed hfitted

theorem confined_patched (hsame : newMode? patch node = none) :
    patch.Confined node (patched patch node node.data) where
  id_eq := rfl
  type_eq := rfl
  label_eq := rfl
  coordinates_eq := rfl
  mode_eq := by
    cases hmode : patch.mode with
    | none => rfl
    | some name =>
        by_contra hne
        have hnew : newMode? patch node = some name :=
          newMode?_eq_some_iff.mpr ⟨hmode, fun heq => hne heq.symm⟩
        rw [hsame] at hnew
        cases hnew
  enabled_eq := rfl
  onError_eq := rfl
  join_eq := rfl
  metadata_eq := rfl
  of_same_mode := fun _ => ⟨rfl, rfl, rfl, rfl⟩
  keyed := keyed_patched patch rfl

theorem confined_refitted (hnew : newMode? patch node = some name)
    (hdata : baseData node (some name) = .ok data) (document : Document) :
    patch.Confined node (refitted document patch (patched patch node data)) := by
  obtain ⟨hname, hne⟩ := newMode?_eq_some_iff.mp hnew
  obtain ⟨type, mode, -, hmode, rfl⟩ := exists_of_changeMode hdata
  obtain rfl : mode.value = name := by simpa using List.find?_some hmode
  have hafter := refitted_keeps Node.mode (fun _ _ => rfl) document patch
  exact
    { id_eq := refitted_keeps Node.id (fun _ _ => rfl) _ _ _
      type_eq := refitted_keeps Node.type (fun _ _ => rfl) _ _ _
      label_eq := refitted_keeps Node.label (fun _ _ => rfl) _ _ _
      coordinates_eq := refitted_keeps Node.coordinates (fun _ _ => rfl) _ _ _
      mode_eq := (hafter _).trans (by rw [hname]; rfl)
      enabled_eq := refitted_keeps (fun node => node.data.enabled) (fun _ _ => rfl) _ _ _
      onError_eq := refitted_keeps (fun node => node.data.onError) (fun _ _ => rfl) _ _ _
      join_eq := refitted_keeps (fun node => node.data.join) (fun _ _ => rfl) _ _ _
      metadata_eq := refitted_keeps (fun node => node.data.metadata) (fun _ _ => rfl) _ _ _
      of_same_mode := fun hsame => absurd ((hafter _).symm.trans hsame) hne
      keyed := fun hkeyed => keyed_refitted document patch (keyed_patched patch rfl hkeyed) }

theorem confined_patchNode (hids : document.nodeIds.Nodup)
    (hok : patchNode document patch = .ok next) :
    (Command.patchNode patch).Confined document next := by
  obtain ⟨node, data, hnode, hdata, rfl⟩ := exists_of_patchNode hids hok
  obtain ⟨hmem, hid⟩ := mem_of_node? hnode
  have hafter : patch.Confined node
      (if (newMode? patch node).isNone then patched patch node data
        else refitted document patch (patched patch node data)) := by
    cases hnew : newMode? patch node with
    | none =>
        rw [hnew] at hdata
        cases hdata
        exact confined_patched hnew
    | some name =>
        rw [hnew] at hdata
        exact confined_refitted hnew hdata document
  apply rewritten_replaceNode hids hmem hafter.id_eq
  · rwa [if_pos hid]
  · intro other _ hother
    rw [if_neg (hid ▸ hother)]

theorem confined_addNode {new : NewNode} (hok : addNode document new = .ok next) :
    (Command.addNode new).Confined document next := by
  obtain ⟨type, -, hok⟩ := exists_of_bind_eq_ok hok
  obtain ⟨label, -, hok⟩ := exists_of_bind_eq_ok hok
  simp only at hok
  split at hok
  · cases hok
  · cases hok
    exact ⟨_, bindings_newNode document type new label, rfl⟩

theorem confined_duplicateNode {nodeId : String} (hok : duplicateNode document nodeId = .ok next) :
    (Command.duplicateNode nodeId).Confined document next := by
  obtain ⟨model, hmodel, hok⟩ := exists_of_bind_eq_ok hok
  obtain ⟨label, -, hok⟩ := exists_of_bind_eq_ok hok
  cases hok
  refine ⟨model, _, requireNode_eq_ok_iff.mp hmodel, ?_, ?_, rfl⟩
  · rfl
  · rfl

theorem confined_deleteNode (hids : document.nodeIds.Nodup) {nodeId : String}
    (hok : deleteNode document nodeId = .ok next) :
    (Command.deleteNode nodeId).Confined document next := by
  obtain ⟨node, hnode, hok⟩ := exists_of_bind_eq_ok hok
  cases hok
  obtain ⟨hmem, rfl⟩ := mem_of_node? (requireNode_eq_ok_iff.mp hnode)
  obtain ⟨front, back, hnodes⟩ := List.append_of_mem hmem
  have hothers : ∀ other ∈ front ++ back, other.id ≠ node.id := by
    rw [nodeIds, hnodes, List.map_append, List.map_cons, List.nodup_middle,
      ← List.map_append] at hids
    intro other hother hid
    exact (List.nodup_cons.mp hids).1 (hid ▸ List.mem_map_of_mem hother)
  have hkept : (document.nodes.filter fun other => other.id ≠ node.id) = front ++ back := by
    rw [hnodes, List.filter_append, List.filter_cons_of_neg (by simp), ← List.filter_append,
      List.filter_eq_self]
    simpa using hothers
  refine ⟨front, node, back, hnodes, rfl, ?_⟩
  rw [hkept]

theorem rewritten_mapFromSource (hids : document.nodeIds.Nodup) {target source : String}
    {changed : Option Document} (hok : mapFromSource document target source = .ok changed) :
    document.Rewritten (changed.getD document) fun node after =>
      after = node ∨ node.id = target ∧ node.AgreesOffBindings after := by
  obtain ⟨targetNode, htarget, hok⟩ := exists_of_bind_eq_ok hok
  obtain ⟨sourceNode, -, hok⟩ := exists_of_bind_eq_ok hok
  obtain ⟨hmem, hid⟩ := mem_of_node? (requireNode_eq_ok_iff.mp htarget)
  simp only at hok
  split at hok
  · cases hok
    refine rewritten_replaceNode hids hmem ?_ ?_ ?_
    · rfl
    · exact Or.inr ⟨hid, agreesOffBindings_resolve targetNode _ _ false⟩
    · exact fun other _ _ => Or.inl rfl
  · cases hok
    exact Rewritten.refl document fun node => Or.inl rfl

theorem confined_connect (hids : document.nodeIds.Nodup) {source target : String}
    {handle : Option String} {changed : Option Document}
    (hok : connect document source target handle = .ok changed) :
    (Command.connect source target handle).Confined document (changed.getD document) := by
  simp only [connect] at hok
  split at hok
  · cases hok
  · split at hok
    · cases hok
      refine ⟨[], by simp, by simp, ?_⟩
      rw [List.append_nil]
      exact Rewritten.refl document fun node => Or.inl rfl
    · obtain ⟨mapped, hmapped, hok⟩ := exists_of_bind_eq_ok hok
      cases hok
      refine ⟨_, ?_, ?_, rewritten_mapFromSource (by simpa using hids) hmapped⟩
      · simp
      · simp

theorem confined_disconnect (edgeId : String) :
    (Command.disconnect edgeId).Confined document ((disconnect document edgeId).getD document) := by
  simp only [disconnect]
  split
  · next hlength =>
      have hall := (List.length_filter_eq_length_iff).mp hlength
      rw [Option.getD_none, Command.Confined, List.filter_eq_self.mpr hall]
      rfl
  · rfl

theorem confined_autoMap (hids : document.nodeIds.Nodup) {nodeId : Option String} {force : Bool}
    {changed : Option Document} (hok : autoMap document nodeId force = .ok changed) :
    (Command.autoMap nodeId force).Confined document (changed.getD document) := by
  have hsame : document.Rewritten (changed.getD document) fun node after =>
      after = node ∨ document.MayMap nodeId node ∧ node.AgreesOffBindings after := by
    cases nodeId with
    | none =>
        cases hok
        change document.Rewritten (mappedAll document force) _
        rw [mappedAll_eq_remapped hids]
        apply rewritten_withNodes_map
        intro node hnode
        rw [mappedIn]
        split
        · next hchosen =>
            have htakes := (mem_map_id_targets_iff hids hnode).mp hchosen
            refine Or.inr ⟨?_, agreesOffBindings_mapped document force node⟩
            simpa [MayMap, takesPart] using htakes
        · exact Or.inl rfl
    | some id =>
        obtain ⟨node, hnode, -⟩ := exists_of_bind_eq_ok hok
        have hfound := requireNode_eq_ok_iff.mp hnode
        obtain ⟨hmem, hid⟩ := mem_of_node? hfound
        have hat := mappedAt_of_node? hids hfound force
        rw [mappedAt, hok] at hat
        have hnext : changed.getD document =
            document.replaceNode (mapped document force node) := Except.ok.inj hat
        rw [hnext]
        apply rewritten_replaceNode hids hmem id_mapped
        · exact Or.inr ⟨hid, agreesOffBindings_mapped document force node⟩
        · exact fun other _ _ => Or.inl rfl
  exact hsame

end Edit

namespace Command

variable {document next : Document} {command : Command}

/-- Every command that succeeds does to a document what it may do. -/
theorem confined_of_run (hids : document.nodeIds.Nodup)
    (hok : command.run document = .ok next) : command.Confined document next := by
  obtain ⟨changed, happlied, rfl⟩ := exists_of_run hok
  cases command with
  | addNode new =>
      obtain ⟨result, hresult, rfl⟩ := exists_of_map_eq_ok happlied
      exact Edit.confined_addNode hresult
  | duplicateNode nodeId =>
      obtain ⟨result, hresult, rfl⟩ := exists_of_map_eq_ok happlied
      exact Edit.confined_duplicateNode hresult
  | patchNode patch =>
      obtain ⟨result, hresult, rfl⟩ := exists_of_map_eq_ok happlied
      exact Edit.confined_patchNode hids hresult
  | deleteNode nodeId =>
      obtain ⟨result, hresult, rfl⟩ := exists_of_map_eq_ok happlied
      exact Edit.confined_deleteNode hids hresult
  | connect source target handle => exact Edit.confined_connect hids happlied
  | disconnect edgeId =>
      cases happlied
      exact Edit.confined_disconnect edgeId
  | autoMap nodeId force => exact Edit.confined_autoMap hids happlied
  | rename name =>
      cases happlied
      rfl
  | replace other =>
      cases happlied
      rfl

/-- No edit leaves bindings whose slots are not trimmed and distinct, if there were none before. -/
theorem keyed_of_confined (hedit : command.IsEdit) (hconfined : command.Confined document next)
    (hkeyed : document.Keyed) : next.Keyed := by
  have happend {added : Node} (hadded : Binding.Keyed added.bindings) :
      ∀ node ∈ document.nodes ++ [added], Binding.Keyed node.bindings := by
    intro node hnode
    rcases List.mem_append.mp hnode with hold | hnew
    · exact hkeyed node hold
    · exact List.mem_singleton.mp hnew ▸ hadded
  cases command with
  | addNode new =>
      obtain ⟨added, hnone, rfl⟩ := hconfined
      exact happend (hnone ▸ Binding.keyed_nil)
  | duplicateNode nodeId =>
      obtain ⟨model, copy, hmodel, -, hdata, rfl⟩ := hconfined
      apply happend
      rw [Node.bindings, hdata]
      exact hkeyed model (Document.mem_of_node? hmodel).1
  | patchNode patch =>
      intro after hmem
      obtain ⟨node, hnode, hafter⟩ := hconfined.exists_of_mem hmem
      split at hafter
      · exact hafter.keyed (hkeyed node hnode)
      · exact hafter ▸ hkeyed node hnode
  | deleteNode nodeId =>
      obtain ⟨front, removed, back, hnodes, -, rfl⟩ := hconfined
      intro node hnode
      apply hkeyed
      rw [hnodes]
      exact ((List.sublist_cons_self removed back).append_left front).subset hnode
  | connect source target handle =>
      obtain ⟨drawn, -, -, hconfined⟩ := hconfined
      intro after hmem
      obtain ⟨node, hnode, rfl | ⟨-, hagrees⟩⟩ := hconfined.exists_of_mem hmem
      · exact hkeyed _ hnode
      · exact hagrees.keyed (hkeyed node hnode)
  | disconnect edgeId => exact hconfined ▸ hkeyed
  | autoMap nodeId force =>
      intro after hmem
      obtain ⟨node, hnode, rfl | ⟨-, hagrees⟩⟩ := hconfined.exists_of_mem hmem
      · exact hkeyed _ hnode
      · exact hagrees.keyed (hkeyed node hnode)
  | rename name => exact hconfined ▸ hkeyed
  | replace other => exact hedit.elim

end Command

namespace Document

variable {document next : Document}

/-- Nothing that an edit does to the graph puts what remains into another order. -/
theorem keepsOrder_of_change (hchange : Edit.Change document next) : document.KeepsOrder next := by
  have hfresh {α : Type} [DecidableEq α] {items : List α} {item : α} (hnew : item ∉ items) :
      ((items ++ [item]).filter fun other => other ∈ items).Sublist items := by
    rw [List.filter_append, List.filter_cons_of_neg (by simpa using hnew), List.filter_nil,
      List.append_nil]
    exact List.filter_sublist
  cases hchange with
  | content hsame =>
      constructor
      · rw [hsame.nodeIds_eq]
        exact List.filter_sublist
      · rw [hsame.edges_eq]
        exact List.filter_sublist
  | @node node hnew =>
      have hnext : (document.withNodes (document.nodes ++ [node])).nodeIds =
          document.nodeIds ++ [node.id] := List.map_append
      constructor
      · rw [hnext]
        exact hfresh hnew
      · exact List.filter_sublist
  | removal nodeId =>
      exact ⟨List.filter_sublist.trans (List.filter_sublist.map Node.id),
        List.filter_sublist.trans List.filter_sublist⟩
  | edge hadmitted hnew hid hsame =>
      constructor
      · rw [hsame.nodeIds_eq]
        exact List.filter_sublist
      · rw [hsame.edges_eq]
        exact hfresh fun hmem => hid (List.mem_map_of_mem hmem)
  | disconnection edgeId =>
      exact ⟨List.filter_sublist, List.filter_sublist.trans List.filter_sublist⟩

theorem Keyed.performAll (hkeyed : document.Keyed) (hsound : document.Sound)
    {commands : List Command} (hedits : ∀ command ∈ commands, command.IsEdit) :
    (document.performAll commands).Keyed := by
  induction commands generalizing document with
  | nil => exact hkeyed
  | cons command rest ih =>
      obtain ⟨hedit, hrest⟩ := List.forall_mem_cons.mp hedits
      refine ih ?_ (hsound.perform hedit) hrest
      rw [perform]
      cases hrun : command.run document with
      | error cause => exact hkeyed
      | ok next =>
          have hconfined := Command.confined_of_run hsound.nodes_distinct hrun
          exact Command.keyed_of_confined hedit hconfined hkeyed

/-- However a document was edited, reading the bindings of a node once more as it is rebuilt makes
no difference. -/
theorem Keyed.withBindings_readGiven (hkeyed : document.Keyed) (hsound : document.Sound)
    {commands : List Command} (hedits : ∀ command ∈ commands, command.IsEdit) :
    ∀ node ∈ (document.performAll commands).nodes,
      node.withBindings (Binding.readGiven (Fields.mapValues .read node.bindings)) =
        node.settled := by
  intro node hnode
  rw [(hkeyed.performAll hsound hedits node hnode).readGiven_read]
  rfl

end Document

/-- With distinct ids, an edit that succeeds does to the document what its command may do, and
nothing else, and what remains stands in the order it had. -/
theorem Command.edits_stay_local {document next : Document} {command : Command}
    (hids : document.nodeIds.Nodup) (hedit : command.IsEdit)
    (hok : command.run document = .ok next) :
    command.Confined document next ∧ document.KeepsOrder next :=
  ⟨confined_of_run hids hok, Document.keepsOrder_of_change (change_of_run hids hedit hok)⟩

/-- The listing is connected to the last step, which takes its documents. -/
theorem Command.edits_stay_local_lateReader :
    Edit.lateReader.nodeIds.Nodup ∧ (connect "list" "late" none).IsEdit ∧
      ∃ next, (connect "list" "late" none).run Edit.lateReader = .ok next ∧
        (connect "list" "late" none).Confined Edit.lateReader next ∧
          Edit.lateReader.KeepsOrder next := by
  have hids : Edit.lateReader.nodeIds.Nodup := by decide
  have hedit : (connect "list" "late" none).IsEdit := trivial
  have hdone : ((connect "list" "late" none).run Edit.lateReader).toOption.isSome = true := by
    decide +kernel
  cases hok : (connect "list" "late" none).run Edit.lateReader with
  | error cause =>
      rw [hok] at hdone
      cases hdone
  | ok next => exact ⟨hids, hedit, next, rfl, edits_stay_local hids hedit hok⟩

/-- One edge more, and the slot of its target filled. -/
example :
    ((Command.connect "list" "late" none).run Edit.lateReader).toOption.map (fun next =>
        (next.edges.map Edge.ends, next.nodes.map fun node => Fields.keys node.bindings)) =
      some ([("list", "read"), ("read", "late"), ("list", "late")],
        [[], ["doc_ids", "note"], ["doc_ids"]]) := by decide +kernel

end FlowGraph
