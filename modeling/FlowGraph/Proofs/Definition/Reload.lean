/-
# Saving and loading a document

The nodes of an edited document are as the catalog has them, so a document whose ids are step ids
already comes back from its compiled definition: the executed nodes in order, and between them the
edges that were drawn. Notes and other builder aids are not saved. Two things that are saved come
back differently. A graph of several steps without an edge between any two of them comes back as a
chain, and a node whose configuration has no setting at all comes back with the configuration of a
new node.
-/

import FlowGraph.Proofs.Definition.Flow
import FlowGraph.Proofs.Definition.Wire

namespace FlowGraph

open Compile Text

/-- A layout moves nodes and changes nothing else. -/
theorem Layout.map_unplaced_place (spacing : Spacing Number) (nodes : List Node)
    (edges : List Edge) :
    (place spacing nodes edges).map Node.unplaced = nodes.map Node.unplaced := by
  have hslot (node : Node) (slot : Option Slot) :
      (Slot.place spacing node slot).unplaced = node.unplaced := by
    cases slot <;> rfl
  have hzip (slots : List (Option Slot)) (hlength : slots.length = nodes.length) :
      (nodes.zipWith (Slot.place spacing) slots).map Node.unplaced =
        nodes.map Node.unplaced := by
    induction nodes generalizing slots with
    | nil => simp
    | cons node rest ih =>
        cases slots with
        | nil => simp at hlength
        | cons slot slots =>
            rw [List.zipWith_cons_cons, List.map_cons, List.map_cons, hslot,
              ih slots (by simpa using hlength)]
  exact hzip _ (by simp [slots])

namespace Load

/-- Written nodes come back one by one, up to their places. -/
theorem exists_nodes {nodes : List Node}
    (hnodes : ∀ node ∈ nodes, IsStepId node.id ∧
      ∃ type mode, node.IsOf type mode ∧ type.builderOnly = false) (index : Nat) :
    ∃ loaded, Load.nodes index (nodes.map Node.toWire) = .ok loaded ∧
      loaded.map Node.unplaced = nodes.map fun node => node.reloaded.unplaced := by
  induction nodes generalizing index with
  | nil => exact ⟨[], by rw [List.map_nil, Load.nodes], by simp⟩
  | cons node rest ih =>
      obtain ⟨⟨hid, type, mode, hnode, hexecuted⟩, hrest⟩ := List.forall_mem_cons.mp hnodes
      obtain ⟨first, hfirst, hsame⟩ := exists_nodeOf_toWire hnode hexecuted hid index
      obtain ⟨others, hothers, hall⟩ := ih hrest (index + 1)
      refine ⟨first :: others, ?_, by simp [hsame, hall]⟩
      simp only [List.map_cons, Load.nodes, hfirst, hothers, bind, Except.bind, pure, Except.pure]

/-- A link between different steps comes back as an edge with the same ends, whose handle is read
from the condition. -/
theorem edge?_toWire {link : Link} (hsource : IsStepId link.source)
    (htarget : IsStepId link.target) (hdiffer : link.source ≠ link.target) (index : Nat) :
    edge? link.toWire index = some
      { id := firstText [trim link.id, "edge_" ++ Naming.numeral (index + 1)]
        source := link.source
        target := link.target
        handle := handle link.condition.toWire } := by
  have hfield : link.toWire.field "from" = .text link.source ∧
      link.toWire.field "to" = .text link.target ∧ link.toWire.field "id" = .text link.id ∧
        link.toWire.field "when" = link.condition.toWire := by
    simp [Link.toWire, Fields.get?_cons]
  simp [edge?, hfield, Value.orElse, Value.isTruthy, hsource.ne_empty, htarget.ne_empty,
    hsource.trim_eq, htarget.trim_eq, hdiffer]

/-- Links between different steps come back as edges with the same ends. -/
theorem map_ends_edges {links : List Link}
    (hlinks : ∀ link ∈ links, IsStepId link.source ∧ IsStepId link.target ∧
      link.source ≠ link.target) :
    (Load.edges (.list (links.map Link.toWire))).map Edge.ends = links.map Link.ends := by
  have hfrom (index : Nat) :
      (edgesFrom index (links.map Link.toWire)).map Edge.ends = links.map Link.ends := by
    induction links generalizing index with
    | nil => rfl
    | cons link rest ih =>
        obtain ⟨⟨hsource, htarget, hdiffer⟩, hrest⟩ := List.forall_mem_cons.mp hlinks
        rw [List.map_cons, edgesFrom, edge?_toWire hsource htarget hdiffer, List.map_append,
          ih hrest]
        rfl
  rw [Load.edges, Value.asList?, Option.getD_some, hfrom]

/-- The edges that are kept are those that break no structural rule. -/
theorem connectable_eq_filter (nodes : List Node) (edges : List Edge) :
    connectable nodes edges = edges.filter fun edge =>
      edge.structureFaults ({ nodes } : Document).nodeTable = [] := by
  apply List.filter_congr
  intro edge _
  rw [Bool.eq_iff_iff, decide_eq_true_iff, Edge.structureFaults_eq_nil_iff, Document.nodeTable]
  split
  · next source target hsource htarget => simp [hsource, htarget]
  · next hmissed =>
    constructor
    · intro hnever
      cases hnever
    · rintro ⟨source, target, hsource, htarget, -⟩
      exact absurd htarget (hmissed source target hsource)

/-- Edges between nodes that exist and admit them are kept. -/
theorem connectable_eq_self {nodes : List Node} {edges : List Edge}
    (hids : (nodes.map Node.id).Nodup)
    (hends : ∀ edge ∈ edges, edge.source ∈ nodes.map Node.id ∧ edge.target ∈ nodes.map Node.id)
    (hspare : ∀ edge ∈ edges, ∀ node ∈ nodes,
      (node.id = edge.target → node.isSourceOnly = false) ∧
        (node.id = edge.source → node.isTerminalOnly = false)) :
    connectable nodes edges = edges := by
  have hdistinct : ({ nodes } : Document).nodeIds.Nodup := hids
  rw [connectable_eq_filter, List.filter_eq_self]
  intro edge hedge
  rw [decide_eq_true_iff]
  exact Document.edge_structureFaults_eq_nil hdistinct (hends edge hedge) (hspare edge hedge)

/-- The written form of a definition carries no layout. -/
theorem needsLayout_toWire (definition : Definition) :
    needsLayout definition.toWire = .ok true := by
  simp [needsLayout, Definition.toWire, Fields.get?_cons, Value.orElse, Value.isTruthy,
    Definition.schemaVersion, looseInt?, bind, Except.bind, pure, Except.pure]

/-- A definition whose steps are written nodes loads. -/
theorem exists_document {definition : Definition} {nodes : List Node} (hne : nodes ≠ [])
    (hsteps : definition.steps.map Step.toWire = nodes.map Node.toWire)
    (hnodes : ∀ node ∈ nodes, IsStepId node.id ∧
      ∃ type mode, node.IsOf type mode ∧ type.builderOnly = false) (title : String) :
    ∃ loaded read, Load.document definition.toWire title = .ok loaded ∧
      read.map Node.unplaced = (nodes.map fun node => node.reloaded.unplaced) ∧
      loaded.nodes.map Node.unplaced = (nodes.map fun node => node.reloaded.unplaced) ∧
      loaded.edges =
        connectable read (Load.edges (.list (definition.links.map Link.toWire))) := by
  obtain ⟨read, hread, hsame⟩ := exists_nodes hnodes 0
  have hlayout := needsLayout_toWire definition
  have hsaved : ((definition.toWire.field "nodes").asList?).getD [] = nodes.map Node.toWire := by
    simp [Definition.toWire, Fields.get?_cons, Value.asList?, hsteps]
  have hlinks : definition.toWire.field "edges" = .list (definition.links.map Link.toWire) := by
    simp [Definition.toWire, Fields.get?_cons]
  cases read with
  | nil =>
      exact absurd (List.map_eq_nil_iff.mp hsame.symm) hne
  | cons first rest =>
      obtain ⟨kept, hkept⟩ : ∃ kept, connectable (first :: rest)
          (Load.edges (.list (definition.links.map Link.toWire))) = kept := ⟨_, rfl⟩
      refine ⟨{ name := title
                nodes := Layout.place Layout.standardSpacing (first :: rest) kept
                edges := kept }, first :: rest, ?_, hsame, ?_, hkept.symm⟩
      · simp only [Load.document, hsaved, hread, hlayout, hlinks, hkept, bind, Except.bind, pure,
          Except.pure, if_true]
      · rw [Layout.map_unplaced_place, hsame]

end Load

namespace Document

/-- The nodes that are executed. -/
def executed (document : Document) : List Node :=
  document.nodes.filter fun node => !node.isBuilderOnly

/-- The id is that of an executed node. -/
def executes (document : Document) (id : String) : Bool :=
  document.executed.any fun node => node.id = id

/-- The edges between executed nodes. -/
def flow (document : Document) : List Edge :=
  document.edges.filter fun edge => document.executes edge.source && document.executes edge.target

theorem Sound.source_ne_target {document : Document} (hsound : document.Sound) {edge : Edge}
    (hedge : edge ∈ document.edges) : edge.source ≠ edge.target := by
  intro hloop
  refine hsound.acyclic edge.source (Relation.TransGen.single ?_)
  have hends : edge.ends = (edge.source, edge.source) := by rw [Edge.ends, ← hloop]
  have hleads : edge.ends ∈ document.arrows := List.mem_map_of_mem hedge
  rwa [hends] at hleads

/-- The document is sound, its nodes are as the catalog has them, and their ids are step ids
already. -/
structure Savable (document : Document) : Prop where
  sound : document.Sound
  stocked : document.Stocked
  fixed : ∀ node ∈ document.nodes, sanitize node.id = node.id

namespace Savable

variable {document : Document} {definition : Definition}

theorem of_edits {name : String} {commands : List Command}
    (hedits : ∀ command ∈ commands, command.IsEdit)
    (hdocument : (blank name).performAll commands = document)
    (hids : ∀ node ∈ document.nodes, sanitize node.id = node.id) : document.Savable where
  sound := hdocument ▸ (sound_blank name).performAll hedits
  stocked := hdocument ▸ (stocked_blank name).performAll hedits
  fixed := hids

variable (hsavable : document.Savable)

include hsavable

theorem isStepId {node : Node} (hnode : node ∈ document.nodes) : IsStepId node.id := by
  obtain ⟨type, mode, hof⟩ := hsavable.stocked node hnode
  exact isStepId_of_sanitize_eq_self hof.id_ne (hsavable.fixed node hnode)

theorem nodup_trim : (document.nodes.map fun node => trim node.id).Nodup := by
  have htrim : (document.nodes.map fun node => trim node.id) = document.nodeIds :=
    List.map_congr_left fun node hnode => (hsavable.isStepId hnode).trim_eq
  exact htrim ▸ hsavable.sound.nodes_distinct

theorem trim_ne {node : Node} (hnode : node ∈ document.nodes) : trim node.id ≠ "" := by
  rw [(hsavable.isStepId hnode).trim_eq]
  exact (hsavable.isStepId hnode).ne_empty

theorem nodeKey_eq_empty_iff {node : Node} (hnode : node ∈ document.nodes) :
    nodeKey node = "" ↔ node.isBuilderOnly = true := by
  obtain ⟨type, mode, hof⟩ := hsavable.stocked node hnode
  cases hbuilder : node.isBuilderOnly with
  | true => simp [nodeKey, hbuilder]
  | false =>
      obtain ⟨key, -, hne, -, hkey, -⟩ := hof.exists_key (hof.isBuilderOnly_eq ▸ hbuilder)
      simp [hkey, hne]

theorem map_node_placed : (placed document.nodes).map Placement.node = document.executed := by
  rw [placed, map_node_placements, executed]
  apply List.filter_congr
  intro node hnode
  have hiff := hsavable.nodeKey_eq_empty_iff hnode
  cases hbuilder : node.isBuilderOnly <;> simp_all

theorem stepId_eq {placement : Placement} (hplaced : placement ∈ placed document.nodes) :
    placement.stepId = placement.node.id :=
  stepId_of_mem_placements hsavable.sound.nodes_distinct (fun _ hnode => hsavable.trim_ne hnode)
    (fun node hnode _ => hsavable.fixed node hnode) (by simp) hplaced

/-- Every executed node is written as it stands. -/
theorem map_toWire_steps (hcompiled : Compiled document.nodes document.edges definition) :
    definition.steps.map Step.toWire = document.executed.map Node.toWire := by
  rw [hcompiled.steps_eq, ← hsavable.map_node_placed, List.map_map, List.map_map]
  apply List.map_congr_left
  intro placement hplaced
  simp only [Function.comp_apply, Placement.step, Node.toWire, hsavable.stepId_eq hplaced]

theorem isOf_of_mem_executed {node : Node} (hnode : node ∈ document.executed) :
    IsStepId node.id ∧ ∃ type mode, node.IsOf type mode ∧ type.builderOnly = false := by
  obtain ⟨hmem, hexecuted⟩ := List.mem_filter.mp hnode
  obtain ⟨type, mode, hof⟩ := hsavable.stocked node hmem
  refine ⟨hsavable.isStepId hmem, type, mode, hof, ?_⟩
  simpa [hof.isBuilderOnly_eq] using hexecuted

/-- An end of an edge becomes the step of its node, if that is executed. -/
theorem map_stepId_owner? {id : String} (hid : id ∈ document.nodeIds) :
    (owner? (placed document.nodes) (trim id)).map Placement.stepId =
      if document.executes id then some id else none := by
  have hids := hsavable.nodup_trim
  have hblank : ∀ node ∈ document.nodes, trim node.id ≠ "" := fun _ hnode => hsavable.trim_ne hnode
  cases howner : owner? (placed document.nodes) (trim id) with
  | some placement =>
      have hplaced := (mem_of_owner? howner).1
      have hnodeId := node_id_of_owner? hids hblank hid howner
      have hmem : placement.node ∈ document.executed :=
        hsavable.map_node_placed ▸ List.mem_map_of_mem hplaced
      have hexecutes : document.executes id = true :=
        List.any_eq_true.mpr ⟨placement.node, hmem, by simpa using hnodeId⟩
      rw [if_pos hexecutes, Option.map_some, hsavable.stepId_eq hplaced, hnodeId]
  | none =>
      have hidle : ¬ document.executes id = true := by
        intro hexecutes
        obtain ⟨node, hnode, hsame⟩ := List.any_eq_true.mp hexecutes
        obtain ⟨placement, hplaced, rfl⟩ :=
          List.mem_map.mp (hsavable.map_node_placed ▸ hnode)
        have hfound := (owner?_trim_eq_some_iff hids hblank).mpr
          ⟨hplaced, congrArg trim (by simpa using hsame : placement.node.id = id)⟩
        rw [howner] at hfound
        cases hfound
      rw [if_neg hidle, Option.map_none]

/-- The edges between executed nodes are the ones that become links. -/
theorem stepArrows_joins :
    stepArrows (joins document.nodes document.edges) = document.flow.map Edge.ends := by
  rw [stepArrows, joins, List.map_filterMap, flow, ← List.filterMap_eq_map,
    List.filterMap_filter]
  apply List.filterMap_congr
  intro edge hedge
  obtain ⟨hsourceId, htargetId⟩ := hsavable.sound.ends_exist edge hedge
  have hsource := hsavable.map_stepId_owner? hsourceId
  have htarget := hsavable.map_stepId_owner? htargetId
  rw [joined?]
  by_cases hfrom : document.executes edge.source = true
  · by_cases hto : document.executes edge.target = true
    · rw [if_pos hfrom] at hsource
      rw [if_pos hto] at htarget
      obtain ⟨source, hsourceAt, hsourceStep⟩ := Option.map_eq_some_iff.mp hsource
      obtain ⟨target, htargetAt, htargetStep⟩ := Option.map_eq_some_iff.mp htarget
      have hdiffer := hsavable.sound.source_ne_target hedge
      simp [hsourceAt, htargetAt, hsourceStep, htargetStep, hdiffer, hfrom, hto, Edge.ends]
    · rw [if_neg hto, Option.map_eq_none_iff] at htarget
      cases owner? (placed document.nodes) (trim edge.source) <;> simp [htarget, hto]
  · rw [if_neg hfrom, Option.map_eq_none_iff] at hsource
    simp [hsource, hfrom]

/-- With one executed node, or an edge between two of them, the links are the edges between
executed nodes. -/
theorem arrows_eq (hcompiled : Compiled document.nodes document.edges definition)
    (hflow : document.executed.length = 1 ∨ document.flow ≠ []) :
    definition.arrows = document.flow.map Edge.ends := by
  have hjoins := hsavable.stepArrows_joins
  rw [hcompiled.arrows_eq, hjoins]
  split
  · rename_i hnone
    have hempty : document.flow = [] := by
      rw [hnone] at hjoins
      exact List.map_eq_nil_iff.mp hjoins.symm
    have hsingle : definition.stepIds.length = 1 := by
      rw [hcompiled.stepIds_eq, List.length_map, ← List.length_map (f := Placement.node),
        hsavable.map_node_placed]
      exact hflow.resolve_right (not_not.mpr hempty)
    obtain ⟨id, hid⟩ := List.length_eq_one_iff.mp hsingle
    simp [hid, hempty]
  · rfl

/-- Then the links lead from steps to other steps. -/
theorem isStepId_ends_links (hcompiled : Compiled document.nodes document.edges definition)
    (hflow : document.executed.length = 1 ∨ document.flow ≠ []) :
    ∀ link ∈ definition.links, IsStepId link.source ∧ IsStepId link.target ∧
      link.source ≠ link.target := by
  intro link hlink
  have hmem : link.ends ∈ document.flow.map Edge.ends :=
    hsavable.arrows_eq hcompiled hflow ▸ List.mem_map_of_mem hlink
  obtain ⟨edge, hedge, hsame⟩ := List.mem_map.mp hmem
  obtain ⟨hsource, htarget⟩ := Prod.mk.inj hsame
  have hdrawn := (List.mem_filter.mp hedge).1
  have hid {id : String} (hid : id ∈ document.nodeIds) : IsStepId id := by
    obtain ⟨node, hnode, rfl⟩ := mem_nodeIds_iff.mp hid
    exact hsavable.isStepId hnode
  obtain ⟨hfrom, hto⟩ := hsavable.sound.ends_exist edge hdrawn
  rw [← hsource, ← htarget]
  exact ⟨hid hfrom, hid hto, hsavable.sound.source_ne_target hdrawn⟩

/-- The ends of edges between executed nodes, wherever nodes of their ids and types stand. -/
theorem flow_fits {nodes : List Node} {edges : List Edge}
    (houtline : nodes.map (fun node => (node.id, node.type)) =
      document.executed.map fun node => (node.id, node.type))
    (hends : edges.map Edge.ends = document.flow.map Edge.ends) :
    (nodes.map Node.id).Nodup ∧
      (∀ edge ∈ edges, edge.source ∈ nodes.map Node.id ∧ edge.target ∈ nodes.map Node.id) ∧
      ∀ edge ∈ edges, ∀ node ∈ nodes, (node.id = edge.target → node.isSourceOnly = false) ∧
        (node.id = edge.source → node.isTerminalOnly = false) := by
  have hids : nodes.map Node.id = document.executed.map Node.id := by
    have hfst := congrArg (List.map Prod.fst) houtline
    simpa [Function.comp_def] using hfst
  have hmem (edge : Edge) (hedge : edge ∈ edges) : ∃ drawn ∈ document.edges,
      document.executes drawn.source = true ∧ document.executes drawn.target = true ∧
        drawn.source = edge.source ∧ drawn.target = edge.target := by
    obtain ⟨drawn, hdrawn, hsame⟩ := List.mem_map.mp (hends ▸ List.mem_map_of_mem hedge)
    obtain ⟨hdrawn, hexecutes⟩ := List.mem_filter.mp hdrawn
    obtain ⟨hsource, htarget⟩ := Prod.mk.inj hsame
    rw [Bool.and_eq_true] at hexecutes
    exact ⟨drawn, hdrawn, hexecutes.1, hexecutes.2, hsource, htarget⟩
  have hexecuted {id : String} (hid : document.executes id = true) : id ∈ nodes.map Node.id := by
    obtain ⟨node, hnode, hsame⟩ := List.any_eq_true.mp hid
    rw [hids]
    exact List.mem_map.mpr ⟨node, hnode, by simpa using hsame⟩
  refine ⟨?_, fun edge hedge => ?_, fun edge hedge node hnode => ?_⟩
  · rw [hids]
    exact hsavable.sound.nodes_distinct.sublist (List.filter_sublist.map _)
  · obtain ⟨drawn, -, hfrom, hto, hsource, htarget⟩ := hmem edge hedge
    exact ⟨hsource ▸ hexecuted hfrom, htarget ▸ hexecuted hto⟩
  · obtain ⟨drawn, hdrawn, -, -, hsource, htarget⟩ := hmem edge hedge
    have hpair : (node.id, node.type) ∈ nodes.map fun node => (node.id, node.type) :=
      List.mem_map_of_mem hnode
    rw [houtline] at hpair
    obtain ⟨original, horiginal, hsame⟩ := List.mem_map.mp hpair
    obtain ⟨hid, htype⟩ := Prod.mk.inj hsame
    have hspare := hsavable.sound.ends_admit drawn hdrawn original
      (List.mem_filter.mp horiginal).1
    simpa only [Node.isSourceOnly, Node.isTerminalOnly, Node.kind?, hid, htype, hsource,
      htarget] using hspare

theorem exists_compile (policy : Policy) (hexecuted : document.executed ≠ []) :
    ∃ definition, document.compile policy = .ok definition := by
  refine exists_definition policy document.edges (fun hnone => hexecuted ?_) fun node hnode => ?_
  · rw [← hsavable.map_node_placed, hnone, List.map_nil]
  · obtain ⟨type, mode, hof⟩ := hsavable.stocked node hnode
    cases href : node.data.ref with
    | none => simp [hasHugeVersion, href]
    | some ref => simp [hasHugeVersion, href, hof.version_eq_none href]

/-- A document without executed nodes does not compile, any other one is saved and loaded. -/
theorem exists_reload (policy : Policy) (title : String) (hexecuted : document.executed ≠ []) :
    ∃ definition loaded, document.compile policy = .ok definition ∧
      Load.document definition.toWire title = .ok loaded ∧
      loaded.nodes.map Node.unplaced =
        (document.executed.map fun node => node.reloaded.unplaced) ∧
      (document.executed.length = 1 ∨ document.flow ≠ [] →
        loaded.edges.map Edge.ends = document.flow.map Edge.ends ∧
          loaded.structureFaults = []) := by
  obtain ⟨definition, hcompile⟩ := hsavable.exists_compile policy hexecuted
  have hcompiled := compiled_of_eq_ok hcompile
  obtain ⟨loaded, read, hload, hread, hnodes, hedges⟩ := Load.exists_document hexecuted
    (hsavable.map_toWire_steps hcompiled) (fun node hnode => hsavable.isOf_of_mem_executed hnode)
    title
  refine ⟨definition, loaded, hcompile, hload, hnodes, fun hflow => ?_⟩
  have houtline {nodes : List Node} (hsame : nodes.map Node.unplaced =
      document.executed.map fun node => node.reloaded.unplaced) :
      nodes.map (fun node => (node.id, node.type)) =
        document.executed.map fun node => (node.id, node.type) := by
    have hpairs := congrArg (List.map fun node : Node => (node.id, node.type)) hsame
    simpa [Function.comp_def, Node.unplaced, Node.reloaded] using hpairs
  have hends := (Load.map_ends_edges (hsavable.isStepId_ends_links hcompiled hflow)).trans
    (hsavable.arrows_eq hcompiled hflow)
  obtain ⟨hids, hexist, hspare⟩ := hsavable.flow_fits (houtline hread) hends
  rw [Load.connectable_eq_self hids hexist hspare] at hedges
  rw [← hedges] at hends
  obtain ⟨hids, hexist, hspare⟩ := hsavable.flow_fits (houtline hnodes) hends
  exact ⟨hends, structureFaults_eq_nil hids hexist hspare⟩

end Savable

/-- What comes back of a node that was saved. -/
structure Reloaded (loaded node : Node) : Prop where
  id_eq : loaded.id = node.id
  type_eq : loaded.type = node.type
  mode_eq : loaded.data.mode = node.data.mode
  ref_eq : loaded.data.ref = node.data.ref
  implemented_eq : loaded.data.implemented = node.data.implemented
  enabled_eq : loaded.data.enabled = node.data.enabled
  join_eq : loaded.data.join = node.data.join
  onError_eq : loaded.data.onError = node.data.onError
  label_eq : loaded.label = if trim node.label = "" then node.id else trim node.label
  bindings_eq :
    (∀ slot binding, (slot, binding) ∈ node.bindings →
      Binding.parse binding.toWire = binding ∧ binding.stepId? ≠ some "") →
    loaded.data.bindings = node.data.bindings

theorem reloaded_of_unplaced_eq {loaded node : Node} (hkeyed : Binding.Keyed node.bindings)
    (hsame : loaded.unplaced = node.reloaded.unplaced) : Reloaded loaded node := by
  obtain ⟨id, type, label, position, data⟩ := loaded
  simp only [Node.unplaced, Node.reloaded, Node.mk.injEq, true_and] at hsame
  obtain ⟨rfl, rfl, rfl, rfl⟩ := hsame
  constructor
  case label_eq => simp only [orText]
  case bindings_eq => exact Binding.parsePairs_toWireAll_eq_self hkeyed
  all_goals simp only

/-- Saving and loading an edited document whose ids are step ids keeps its graph: the executed nodes
come back in order, and so do the edges between them if there are any or if only one node is
executed. No structural rule is broken. -/
theorem graph_reloads_of_edits {name : String} {commands : List Command}
    (hedits : ∀ command ∈ commands, command.IsEdit) {document : Document}
    (hdocument : (blank name).performAll commands = document)
    (hids : ∀ node ∈ document.nodes, sanitize node.id = node.id)
    (hflow : document.executed.length = 1 ∨ document.flow ≠ []) (policy : Policy)
    (title : String) :
    ∃ definition loaded, document.compile policy = .ok definition ∧
      Load.document definition.toWire title = .ok loaded ∧
      List.Forall₂ Reloaded loaded.nodes document.executed ∧
      loaded.edges.map Edge.ends = document.flow.map Edge.ends ∧
      loaded.structureFaults = [] := by
  have hsavable := Savable.of_edits hedits hdocument hids
  have hexecuted : document.executed ≠ [] := by
    rcases hflow with hsingle | hdrawn
    · rintro hnone
      simp [hnone] at hsingle
    · obtain ⟨edge, hedge⟩ := List.exists_mem_of_ne_nil _ hdrawn
      obtain ⟨-, hexecutes⟩ := List.mem_filter.mp hedge
      obtain ⟨node, hnode, -⟩ := List.any_eq_true.mp (Bool.and_eq_true _ _ ▸ hexecutes).1
      exact List.ne_nil_of_mem hnode
  obtain ⟨definition, loaded, hcompile, hload, hnodes, hedges⟩ :=
    hsavable.exists_reload policy title hexecuted
  refine ⟨definition, loaded, hcompile, hload, ?_, hedges hflow⟩
  rw [← List.forall₂_eq_eq_eq, List.forall₂_map_left_iff, List.forall₂_map_right_iff,
    List.forall₂_iff_zip] at hnodes
  refine List.forall₂_iff_zip.mpr ⟨hnodes.1, fun {copy node} hpair => ?_⟩
  obtain ⟨-, type, mode, hof, -⟩ := hsavable.isOf_of_mem_executed (List.of_mem_zip hpair).2
  exact reloaded_of_unplaced_eq hof.keyed (hnodes.2 hpair)

/-- A trigger, a step after it and a note: the note is not saved. -/
def annotated : Document :=
  (blank "Draft").performAll
    [.addNode { type := "ai" }, .connect "trigger_1" "ai_1" none, .addNode { type := "note" }]

theorem annotated_reloads :
    annotated.nodeIds = ["trigger_1", "ai_1", "note_1"] ∧
      ∃ definition loaded, annotated.compile {} = .ok definition ∧
        Load.document definition.toWire "Copy" = .ok loaded ∧
        loaded.nodeIds = ["trigger_1", "ai_1"] ∧
        loaded.arrows = [("trigger_1", "ai_1")] ∧ loaded.structureFaults = [] := by
  refine ⟨by decide +kernel, ?_⟩
  obtain ⟨definition, loaded, hcompile, hload, hnodes, hedges, hfaults⟩ :=
    graph_reloads_of_edits (by simp [Command.IsEdit])
      annotated.eq_1.symm (by decide +kernel)
      (Or.inr (by decide +kernel)) {} "Copy"
  have hids : loaded.nodes.map Node.id = annotated.executed.map Node.id := by
    rw [← List.forall₂_eq_eq_eq, List.forall₂_map_left_iff, List.forall₂_map_right_iff]
    exact hnodes.imp fun _ _ hreloaded => hreloaded.id_eq
  refine ⟨definition, loaded, hcompile, hload, ?_, ?_, hfaults⟩
  · rw [nodeIds, hids]
    decide +kernel
  · rw [arrows, hedges]
    decide +kernel

end Document

end FlowGraph
