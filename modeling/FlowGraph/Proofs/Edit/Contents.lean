/-
# What edited nodes hold

An edit sets the configuration, the bindings and the enabled flag of a node. Everything else in the
data of a node comes from the catalog, for the type and the mode that the node is in: a change of
mode takes it from there again. So the backend reference, the implemented flag, the ways of joining
and of failing and the metadata of a node are known from its type and mode, along every run of
edits. The bindings keep trimmed and distinct slots, since every edit that sets them has read them,
filtered them, or stored under the slots of the catalog's rules.
-/

import FlowGraph.Proofs.Binding
import FlowGraph.Proofs.Edit.Soundness
import FlowGraph.Proofs.Mapping.Resolution

namespace FlowGraph

open Text

/-- The data is what the catalog gives for the mode, except for what edits set. -/
def NodeData.IsOf (data : NodeData) (type : NodeType) (mode : Mode) : Prop :=
  data = { type.freshData (some mode.value) with
    config := data.config, bindings := data.bindings, enabled := data.enabled }

/-- The node is of this type and in this mode, as the catalog has them. -/
structure Node.IsOf (node : Node) (type : NodeType) (mode : Mode) : Prop where
  type_mem : type ∈ Catalog.palette
  mode_mem : mode ∈ type.modes
  type_eq : node.type = type.name
  data_isOf : node.data.IsOf type mode
  keyed : Binding.Keyed node.bindings
  id_ne : node.id ≠ ""

/-- Every node is as the catalog has it. -/
def Document.Stocked (document : Document) : Prop :=
  ∀ node ∈ document.nodes, ∃ type mode, node.IsOf type mode

namespace NodeData

variable {data : NodeData} {type : NodeType} {mode : Mode}

theorem isOf_freshData (type : NodeType) (mode : Mode) :
    (type.freshData (some mode.value)).IsOf type mode := rfl

/-- Edits may set the configuration, the bindings and the enabled flag to anything. -/
theorem IsOf.edit (hdata : data.IsOf type mode) (config : Fields Value) (bindings : Bindings)
    (enabled : Bool) :
    { data with config := config, bindings := bindings, enabled := enabled }.IsOf type mode := by
  rw [IsOf] at hdata ⊢
  rw [hdata]

/-- What a change of mode leaves as it is does not depend on the mode. -/
theorem IsOf.change (hdata : data.IsOf type mode) (other : Mode) :
    { data with
      mode := (type.freshData (some other.value)).mode
      ref := (type.freshData (some other.value)).ref
      implemented := (type.freshData (some other.value)).implemented
      config := (type.freshData (some other.value)).config }.IsOf type other := by
  rw [IsOf] at hdata ⊢
  rw [hdata]
  simp only [NodeType.freshData]
  cases type.builderOnly <;> rfl

end NodeData

namespace Node.IsOf

variable {node : Node} {type : NodeType} {mode : Mode}

theorem kind?_eq (hnode : node.IsOf type mode) : node.kind? = some type :=
  Catalog.type?_eq_some_iff.mpr ⟨hnode.type_mem, hnode.type_eq.symm⟩

theorem isSourceOnly_eq (hnode : node.IsOf type mode) : node.isSourceOnly = type.sourceOnly := by
  rw [isSourceOnly, hnode.kind?_eq, Option.any_some]

theorem isBuilderOnly_eq (hnode : node.IsOf type mode) :
    node.isBuilderOnly = type.builderOnly := by
  rw [isBuilderOnly, hnode.kind?_eq, Option.any_some]

theorem modeRecord?_eq (hnode : node.IsOf type mode) : node.modeRecord? = some mode := by
  have hmode : node.mode = mode.value := by
    rw [Node.mode, hnode.data_isOf]
    exact Catalog.mode_freshData hnode.type_mem hnode.mode_mem
  have htype : Catalog.standard.type? node.type = some type := hnode.kind?_eq
  rw [modeRecord?, Catalog.mode?, Registry.lookupMode?, htype, hmode, Option.map_some,
    Catalog.modeOrDefault_of_mem hnode.type_mem hnode.mode_mem]

/-- The catalog has no versions. -/
theorem version_eq_none (hnode : node.IsOf type mode) {ref : NodeRef}
    (href : node.data.ref = some ref) : ref.version = none := by
  rw [hnode.data_isOf] at href
  simp only [NodeType.freshData] at href
  split at href
  · cases href
  · obtain ⟨key, -, rfl⟩ := Option.map_eq_some_iff.mp href
    rfl

theorem withBindings (hnode : node.IsOf type mode) {bindings : Bindings}
    (hkeyed : Binding.Keyed bindings) : (node.withBindings bindings).IsOf type mode :=
  { hnode with
    data_isOf := hnode.data_isOf.edit node.config bindings node.data.enabled
    keyed := hkeyed }

end Node.IsOf

namespace Mapping

/-- Every slot that a rule fills is trimmed and not blank. -/
theorem trim_targetKey {node : Node} {rule : BindingRule} (hrule : rule ∈ rulesOf node) :
    trim rule.targetKey = rule.targetKey ∧ rule.targetKey ≠ "" := by
  have hall : ∀ type ∈ Catalog.palette, ∀ mode ∈ type.modes, ∀ rule ∈ mode.bindingRules,
      trim rule.targetKey = rule.targetKey ∧ rule.targetKey ≠ "" := by decide +kernel
  rcases rulesOf_cases node with hnone | ⟨type, htype, mode, hmode, hrules⟩
  · rw [hnone] at hrule
    cases hrule
  · exact hall type htype mode hmode rule (hrules ▸ hrule)

theorem keyed_resolve {target : Node} (hkeyed : Binding.Keyed target.bindings)
    (sources : List Node) (stages : Fields Int) (force : Bool) :
    Binding.Keyed (resolve target sources stages force).bindings := by
  have hrule (config : Fields Value) (candidates : List Node) (resolution : Resolution)
      (hresolution : Binding.Keyed resolution.bindings) (rule : BindingRule)
      (hrule : rule ∈ rulesOf target) :
      Binding.Keyed (applyRule force config candidates resolution rule).bindings := by
    obtain ⟨htrim, hne⟩ := trim_targetKey hrule
    rcases applyRule_cases ((compatible_rulesOf target).falls_back rule hrule) force config
      candidates resolution with ⟨hsame, -⟩ | ⟨-, -, hstored⟩
    · rw [hsame]
      exact hresolution
    · rw [hstored]
      exact hresolution.set htrim hne _
  have hrules (rules : List BindingRule) (hsubset : rules ⊆ rulesOf target)
      (config : Fields Value) (candidates : List Node) (resolution : Resolution)
      (hresolution : Binding.Keyed resolution.bindings) :
      Binding.Keyed
        (rules.foldl (applyRule force config candidates) resolution).bindings := by
    induction rules generalizing resolution with
    | nil => exact hresolution
    | cons rule rest ih =>
        obtain ⟨hhead, hrest⟩ := List.cons_subset.mp hsubset
        exact ih hrest _ (hrule config candidates resolution hresolution rule hhead)
  exact hrules _ (List.Subset.refl _) _ _ _ hkeyed

end Mapping

namespace Edit

variable {node : Node} {type : NodeType} {mode : Mode}

theorem bindings_newNode (document : Document) (type : NodeType) (new : NewNode) (label : String) :
    (newNode document type new label).bindings = [] := by
  simp only [Node.bindings, newNode, NodeType.freshData]
  split <;> rfl

theorem newNode_isOf (document : Document) (htype : type ∈ Catalog.palette) (new : NewNode)
    (label : String) :
    (newNode document type new label).IsOf type (type.modeOrDefault new.mode) where
  type_mem := htype
  mode_mem := Catalog.modeOrDefault_mem htype _
  type_eq := rfl
  data_isOf := NodeData.isOf_freshData _ _
  keyed := bindings_newNode document type new label ▸ Binding.keyed_nil
  id_ne := by
    simp only [newNode, nonEmpty?]
    cases new.nodeId with
    | none => exact Naming.nextNodeId_ne_empty _ _
    | some id =>
        by_cases hid : id = ""
        · simp [hid, Naming.nextNodeId_ne_empty]
        · simp [hid]

/-- The data of the node in another mode: what the mode decides comes from the catalog, and the rest
is kept. -/
def switched (node : Node) (mode : Mode) : NodeData :=
  { node.data with
    mode := mode.value
    ref := mode.nodeKey.map fun key => { key }
    implemented := mode.implemented
    config := mode.defaultConfig }

/-- A change of mode leads to a mode that the type has. -/
theorem exists_of_changeMode {name : String} {data : NodeData}
    (hok : changeMode node name = .ok data) :
    ∃ type mode, Catalog.type? node.type = some type ∧ type.findMode? (some name) = some mode ∧
      data = switched node mode := by
  obtain ⟨type, hrequire, hok⟩ := exists_of_bind_eq_ok hok
  obtain ⟨mode, hmodeFor, hok⟩ := exists_of_bind_eq_ok hok
  have htype := Catalog.type?_of_require hrequire
  have hmem := (Catalog.type?_eq_some_iff.mp htype).1
  rw [Registry.modeFor, hrequire] at hmodeFor
  simp only [bind, Except.bind] at hmodeFor
  split at hmodeFor
  · next found hfound =>
      cases hmodeFor
      have hmode := List.mem_of_find?_eq_some hfound
      refine ⟨type, mode, htype, hfound, ?_⟩
      rw [switched, ← Catalog.ref_freshData hmem hmode, ← Catalog.implemented_freshData hmem hmode,
        ← Catalog.config_freshData hmem hmode]
      exact (Except.ok.inj hok).symm
  · cases hmodeFor

/-- A change of mode makes of a node what the catalog has for the new mode. -/
theorem exists_changeMode_isOf (hnode : node.IsOf type mode) {name : String} {data : NodeData}
    (hok : changeMode node name = .ok data) :
    ∃ record ∈ type.modes, data.IsOf type record ∧ data.bindings = node.bindings := by
  obtain ⟨found, record, htype, hfound, rfl⟩ := exists_of_changeMode hok
  obtain rfl : type = found := Option.some.inj (hnode.kind?_eq.symm.trans htype)
  have hrecord : record ∈ type.modes := List.mem_of_find?_eq_some hfound
  refine ⟨record, hrecord, ?_, rfl⟩
  have hdata := hnode.data_isOf.change record
  rwa [Catalog.mode_freshData hnode.type_mem hrecord, Catalog.ref_freshData hnode.type_mem hrecord,
    Catalog.implemented_freshData hnode.type_mem hrecord,
    Catalog.config_freshData hnode.type_mem hrecord] at hdata

theorem keyed_patched (patch : Patch) {data : NodeData} (hdata : data.bindings = node.bindings)
    (hkeyed : Binding.Keyed node.bindings) : Binding.Keyed (patched patch node data).bindings := by
  change Binding.Keyed ((patch.bindings.map Binding.parsePairs).getD data.bindings)
  cases patch.bindings with
  | none => exact hdata ▸ hkeyed
  | some given => exact Binding.keyed_parsePairs given

theorem exists_patched_isOf (patch : Patch) (hnode : node.IsOf type mode) {data : NodeData}
    (hok : baseData node (newMode? patch node) = .ok data) :
    ∃ record, (patched patch node data).IsOf type record := by
  obtain ⟨record, hrecord, hdata, hbindings⟩ :
      ∃ record ∈ type.modes, data.IsOf type record ∧ data.bindings = node.bindings := by
    cases hmode : newMode? patch node with
    | none =>
        rw [hmode] at hok
        cases hok
        exact ⟨mode, hnode.mode_mem, hnode.data_isOf, rfl⟩
    | some name =>
        rw [hmode] at hok
        exact exists_changeMode_isOf hnode hok
  exact ⟨record, { hnode with
    mode_mem := hrecord
    data_isOf := hdata.edit _ _ _
    keyed := keyed_patched patch hbindings hnode.keyed
    id_ne := hnode.id_ne }⟩

/-- Only slots are left out of the bindings that survive a change of mode. -/
theorem keyed_keptBindings (document : Document) (hkeyed : Binding.Keyed node.bindings) :
    Binding.Keyed (keptBindings document node) := by
  have hkeys (allowed : List String) :
      Fields.keys (Mapping.reconcile {} allowed node.bindings) = Fields.keys node.bindings := by
    simp [Mapping.reconcile, Mapping.Contract.select]
  apply hkeyed.of_sublist
  rw [← hkeys (eligibleSources document node.id), keptBindings]
  exact List.filter_sublist.map Prod.fst

theorem fitted_isOf (document : Document) (patch : Patch) (hnode : node.IsOf type mode) :
    (fitted document patch node).IsOf type mode := by
  rw [fitted]
  split
  · exact hnode
  · exact hnode.withBindings (keyed_keptBindings document hnode.keyed)

end Edit

namespace Document

variable {document next : Document}

theorem stocked_blank (name : String) : (blank name).Stocked := by
  intro node hnode
  obtain rfl := List.mem_singleton.mp hnode
  refine ⟨Palette.trigger, Palette.trigger.defaultMode, ?_, ?_, rfl, rfl, Binding.keyed_nil, ?_⟩
  · simp [Catalog.palette, Palette.coreTypes]
  · simp [NodeType.defaultMode, Palette.trigger]
  · decide

theorem Stocked.append (hstocked : document.Stocked) {node : Node}
    (hnode : ∃ type mode, node.IsOf type mode) :
    (document.withNodes (document.nodes ++ [node])).Stocked := by
  intro other hother
  rcases List.mem_append.mp hother with hold | hnew
  · exact hstocked other hold
  · obtain rfl := List.mem_singleton.mp hnew
    exact hnode

theorem Stocked.replaceNode (hstocked : document.Stocked) {node : Node}
    (hnode : ∃ type mode, node.IsOf type mode) : (document.replaceNode node).Stocked := by
  intro other hother
  obtain ⟨original, horiginal, rfl⟩ := List.mem_map.mp hother
  split
  · exact hnode
  · exact hstocked original horiginal

theorem Stocked.of_subset (hstocked : document.Stocked) (hnodes : next.nodes ⊆ document.nodes) :
    next.Stocked := fun node hnode => hstocked node (hnodes hnode)

theorem Stocked.of_requireNode (hstocked : document.Stocked) {id : String} {node : Node}
    (hok : document.requireNode id = .ok node) : ∃ type mode, node.IsOf type mode :=
  hstocked node (mem_of_node? (requireNode_eq_ok_iff.mp hok)).1

/-- A node of the document whose inputs were mapped. -/
theorem Stocked.of_resolve (hstocked : document.Stocked) {target : Node}
    (htarget : ∃ type mode, target.IsOf type mode) (sources : List Node) (stages : Fields Int)
    (force : Bool) :
    (document.replaceNode
      (target.withBindings (Mapping.resolve target sources stages force).bindings)).Stocked := by
  obtain ⟨type, mode, hnode⟩ := htarget
  exact hstocked.replaceNode
    ⟨type, mode, hnode.withBindings (Mapping.keyed_resolve hnode.keyed _ _ _)⟩

theorem Stocked.mapNode {edited : Option Document} (hedited : (edited.getD document).Stocked)
    (stages : Fields Int) (force : Bool) {target : Node}
    (htarget : ∃ type mode, target.IsOf type mode) :
    ((Mapping.mapNode document stages force edited target).getD document).Stocked := by
  simp only [Mapping.mapNode]
  split
  · exact hedited.of_resolve htarget _ _ _
  · exact hedited

theorem Stocked.autoMap (hstocked : document.Stocked) {nodeId : Option String} {force : Bool}
    {changed : Option Document} (hok : Mapping.autoMap document nodeId force = .ok changed) :
    (changed.getD document).Stocked := by
  have hfold (targets : List Node) (htargets : targets ⊆ document.nodes)
      (edited : Option Document) (hedited : (edited.getD document).Stocked) :
      ((targets.foldl (Mapping.mapNode document document.stages force) edited).getD
        document).Stocked := by
    induction targets generalizing edited with
    | nil => exact hedited
    | cons target rest ih =>
        obtain ⟨hhead, hrest⟩ := List.cons_subset.mp htargets
        exact ih hrest _ (Stocked.mapNode hedited _ _ (hstocked target hhead))
  cases nodeId with
  | none =>
      cases hok
      exact hfold _ List.filter_sublist.subset none hstocked
  | some id =>
      obtain ⟨target, htarget, hok⟩ := exists_of_bind_eq_ok hok
      cases hok
      have hdone : ((none : Option Document).getD document).Stocked := hstocked
      exact Stocked.mapNode hdone _ _ (hstocked.of_requireNode htarget)

theorem Stocked.mapFromSource (hstocked : document.Stocked) {target source : String}
    {changed : Option Document} (hok : Mapping.mapFromSource document target source = .ok changed) :
    (changed.getD document).Stocked := by
  obtain ⟨targetNode, htarget, hok⟩ := exists_of_bind_eq_ok hok
  obtain ⟨sourceNode, -, hok⟩ := exists_of_bind_eq_ok hok
  simp only at hok
  split at hok
  · cases hok
    exact hstocked.of_resolve (hstocked.of_requireNode htarget) _ _ _
  · cases hok
    exact hstocked

theorem Stocked.addNode (hstocked : document.Stocked) {new : NewNode}
    (hok : Edit.addNode document new = .ok next) : next.Stocked := by
  obtain ⟨type, htype, hok⟩ := exists_of_bind_eq_ok hok
  obtain ⟨label, -, hok⟩ := exists_of_bind_eq_ok hok
  simp only at hok
  split at hok
  · cases hok
  · cases hok
    have hmem := (Catalog.type?_eq_some_iff.mp (Catalog.type?_of_require htype)).1
    exact hstocked.append
      ⟨type, _, Edit.newNode_isOf document hmem new label⟩

theorem Stocked.duplicateNode (hstocked : document.Stocked) {nodeId : String}
    (hok : Edit.duplicateNode document nodeId = .ok next) : next.Stocked := by
  obtain ⟨model, hmodel, hok⟩ := exists_of_bind_eq_ok hok
  obtain ⟨label, -, hok⟩ := exists_of_bind_eq_ok hok
  cases hok
  obtain ⟨type, mode, hnode⟩ := hstocked.of_requireNode hmodel
  exact hstocked.append
    ⟨type, mode, { hnode with id_ne := Naming.nextNodeId_ne_empty _ _ }⟩

theorem Stocked.patchNode (hstocked : document.Stocked) {patch : Patch}
    (hok : Edit.patchNode document patch = .ok next) : next.Stocked := by
  obtain ⟨node, hnode, hok⟩ := exists_of_bind_eq_ok hok
  obtain ⟨data, hdata, hok⟩ := exists_of_bind_eq_ok hok
  obtain ⟨type, mode, hof⟩ := hstocked.of_requireNode hnode
  obtain ⟨record, hpatched⟩ := Edit.exists_patched_isOf patch hof hdata
  simp only at hok
  split at hok
  · cases hok
    exact hstocked.replaceNode ⟨type, record, hpatched⟩
  · have hfitted := hstocked.replaceNode
      ⟨type, record, Edit.fitted_isOf document patch hpatched⟩
    split at hok
    · cases hok
      exact hfitted
    · obtain ⟨mapped, hmapped, hok⟩ := exists_of_bind_eq_ok hok
      cases hok
      exact hfitted.autoMap hmapped

theorem Stocked.connect (hstocked : document.Stocked) {source target : String}
    {handle : Option String} {changed : Option Document}
    (hok : Edit.connect document source target handle = .ok changed) :
    (changed.getD document).Stocked := by
  simp only [Edit.connect] at hok
  split at hok
  · cases hok
  · split at hok
    · cases hok
      exact hstocked
    · obtain ⟨mapped, hmapped, hok⟩ := exists_of_bind_eq_ok hok
      cases hok
      have hconnected : (document.withEdges (document.edges ++
          [{ id := Naming.nextEdgeId source target handle (document.edges.map Edge.id)
             source, target, handle }])).Stocked := hstocked
      exact hconnected.mapFromSource hmapped

/-- No edit makes a node that the catalog does not know. -/
theorem Stocked.run (hstocked : document.Stocked) {command : Command} (hedit : command.IsEdit)
    (hok : command.run document = .ok next) : next.Stocked := by
  obtain ⟨changed, happlied, rfl⟩ := Command.exists_of_run hok
  cases command with
  | addNode new =>
      obtain ⟨result, hresult, rfl⟩ := exists_of_map_eq_ok happlied
      exact hstocked.addNode hresult
  | duplicateNode nodeId =>
      obtain ⟨result, hresult, rfl⟩ := exists_of_map_eq_ok happlied
      exact hstocked.duplicateNode hresult
  | patchNode patch =>
      obtain ⟨result, hresult, rfl⟩ := exists_of_map_eq_ok happlied
      exact hstocked.patchNode hresult
  | deleteNode nodeId =>
      obtain ⟨result, hresult, rfl⟩ := exists_of_map_eq_ok happlied
      obtain ⟨node, -, hresult⟩ := exists_of_bind_eq_ok hresult
      cases hresult
      exact hstocked.of_subset List.filter_sublist.subset
  | connect source target handle => exact hstocked.connect happlied
  | disconnect edgeId =>
      cases happlied
      refine hstocked.of_subset ?_
      simp only [Edit.disconnect]
      split <;> exact List.Subset.refl _
  | autoMap nodeId force => exact hstocked.autoMap happlied
  | rename name =>
      cases happlied
      exact hstocked
  | replace other => exact hedit.elim

theorem Stocked.performAll (hstocked : document.Stocked) {commands : List Command}
    (hedits : ∀ command ∈ commands, command.IsEdit) : (document.performAll commands).Stocked := by
  induction commands generalizing document with
  | nil => exact hstocked
  | cons command rest ih =>
      obtain ⟨hedit, hrest⟩ := List.forall_mem_cons.mp hedits
      refine ih ?_ hrest
      rw [perform]
      cases hrun : command.run document with
      | error cause => exact hstocked
      | ok next => exact hstocked.run hedit hrun

end Document

end FlowGraph
