/-
# Saving a loaded definition

Whatever a definition holds, each of its nodes loads as one that is executed, since every backend
key leads to such a mode, and no version that is read is too large. So a definition that loads can
be saved again, with one step for every node. Whether a node is enabled is kept on the way. How it
waits for the steps before it and what becomes of the run when it fails are read on loading but
never written, so they are kept only where they are the usual ones.
-/

import FlowGraph.Proofs.Definition.Reload
import FlowGraph.Proofs.Double

namespace FlowGraph

open Compile Text

namespace Load

/-- How a written node waits for the steps before it. -/
def joinOf (raw : Value) : String := firstText [(raw.field "join").plainText, "all"]

/-- What a written node does when it fails. -/
def onErrorOf (raw : Value) : String := firstText [(raw.field "on_error").plainText, "fail_fast"]

/-- A written node is enabled unless it says that it is not. -/
def enabledOf (raw : Value) : Bool := !isFalse (raw.field "enabled")

/-- The id of a written node, without blanks around it. -/
def idOf (raw : Value) : String := (raw.field "id").plainText

/-- The nodes of a written definition. -/
def writtenNodes (definition : Value) : List Value := ((definition.field "nodes").asList?).getD []

/-- The node is what loading makes of the written one. -/
structure Reads (raw : Value) (node : Node) : Prop where
  executed : nodeKey node ≠ ""
  version_fits : hasHugeVersion node = false
  enabled_eq : node.data.enabled = enabledOf raw
  join_eq : node.data.join = joinOf raw
  onError_eq : node.data.onError = onErrorOf raw
  id_eq : idOf raw ≠ "" → node.id = idOf raw

theorem Reads.of_unplaced_eq {raw : Value} {node moved : Node} (hreads : Reads raw node)
    (hsame : moved.unplaced = node.unplaced) : Reads raw moved := by
  obtain ⟨id, type, label, position, data⟩ := moved
  simp only [Node.unplaced, Node.mk.injEq, true_and] at hsame
  obtain ⟨rfl, rfl, rfl, rfl⟩ := hsame
  exact ⟨hreads.1, hreads.2, hreads.3, hreads.4, hreads.5, hreads.6⟩

/-- A version that was read can become a double again. -/
theorem fitsDouble_of_version {value : Value} {n : Int} (hok : version value = .ok (some n)) :
    Decimal.fitsDouble n = true := by
  obtain ⟨number, -, hread⟩ := exists_of_bind_eq_ok hok
  simp only [pure, Except.pure, Except.ok.injEq] at hread
  obtain ⟨x, -, htruncate⟩ := Option.bind_eq_some_iff.mp hread
  split at htruncate
  · rename_i hpositive
    cases htruncate
    exact Schema.fitsDouble_truncate (Bool.and_eq_true _ _ ▸ hpositive).1
  · cases htruncate

theorem fitsDouble_of_nodeRef {type : NodeType} {mode : String} {raw : Value} {ref : NodeRef}
    (hok : nodeRef type mode (type.freshData (some mode)) raw = .ok (some ref)) {n : Int}
    (hversion : ref.version = some n) : Decimal.fitsDouble n = true := by
  simp only [nodeRef] at hok
  generalize firstText _ = refKey at hok
  by_cases hkeyed : (!type.builderOnly && decide (refKey ≠ "")) = true
  · rw [if_pos hkeyed] at hok
    obtain ⟨version, hread, href⟩ := exists_of_bind_eq_ok hok
    cases href
    obtain rfl : version = some n := hversion
    exact fitsDouble_of_version hread
  · rw [if_neg hkeyed] at hok
    have hfresh : (type.freshData (some mode)).ref = some ref := Except.ok.inj hok
    simp only [NodeType.freshData] at hfresh
    split at hfresh
    · cases hfresh
    · obtain ⟨key, -, rfl⟩ := Option.map_eq_some_iff.mp hfresh
      cases hversion

/-- A node in a mode that is executed has a backend key, whatever its reference. -/
theorem nodeKey_ne_empty {type : NodeType} {mode : Mode} (htype : type ∈ Catalog.palette)
    (hexecuted : type.builderOnly = false) (hmode : mode ∈ type.modes) {node : Node}
    (htypeEq : node.type = type.name) (hmodeEq : node.mode = mode.value) : nodeKey node ≠ "" := by
  obtain ⟨key, hkey, hne, htrim⟩ := Catalog.exists_key htype hexecuted hmode
  have hkind : node.kind? = some type := Catalog.type?_eq_some_iff.mpr ⟨htype, htypeEq.symm⟩
  have hbuilder : node.isBuilderOnly = false := by
    rw [Node.isBuilderOnly, hkind, Option.any_some, hexecuted]
  have hcatalog : type.nodeKeyFor (some node.mode) = some key := by
    rw [NodeType.nodeKeyFor, hmodeEq, Catalog.modeOrDefault_of_mem htype hmode, hkey]
  by_cases href : trim node.refKey = ""
  · simp [nodeKey, hbuilder, hkind, hcatalog, orText, href, htrim, hne]
  · simp [nodeKey, hbuilder, orText, href]

theorem reads_of_nodeOf {raw : Value} {fallback : Fallback} {node : Node}
    (hok : nodeOf raw.fields fallback = .ok node) : Reads raw node := by
  obtain ⟨type, htype, hexecuted, mode, hmode, hresolve⟩ :=
    Catalog.exists_of_resolveKey (rawKey (.object raw.fields))
  have hdefaults : (type.freshData (some mode.value)).join = "all" ∧
      (type.freshData (some mode.value)).onError = "fail_fast" := by
    simp only [NodeType.freshData]
    split <;> exact ⟨rfl, rfl⟩
  rw [nodeOf] at hok
  simp only [hresolve] at hok
  obtain ⟨found, hfound, hok⟩ := exists_of_bind_eq_ok hok
  obtain rfl : type = found := Except.ok.inj ((Catalog.require_of_mem htype).symm.trans hfound)
  obtain ⟨id, hid, hok⟩ := exists_of_bind_eq_ok hok
  obtain ⟨ref, href, hok⟩ := exists_of_bind_eq_ok hok
  obtain ⟨place, -, hok⟩ := exists_of_bind_eq_ok hok
  cases place with
  | bad faults => cases hok
  | ok place =>
      simp only [pure, Except.pure, Except.ok.injEq] at hok
      subst hok
      constructor
      case executed =>
        exact nodeKey_ne_empty htype hexecuted hmode rfl (Catalog.mode_freshData htype hmode)
      case version_fits =>
        cases ref with
        | none => simp [hasHugeVersion]
        | some ref =>
            cases hversion : ref.version with
            | none => simp [hasHugeVersion, hversion]
            | some n => simp [hasHugeVersion, hversion, fitsDouble_of_nodeRef href hversion]
      case enabled_eq => rfl
      case join_eq => rw [hdefaults.1]; rfl
      case onError_eq => rw [hdefaults.2]; rfl
      case id_eq =>
        intro hfilled
        exact Except.ok.inj (hid.symm.trans (nodeId_eq hfilled type.name fallback))

/-- Written nodes are read one by one. -/
theorem reads_of_nodes {raws : List Value} {index : Nat} {loaded : List Node}
    (hok : nodes index raws = .ok loaded) : List.Forall₂ Reads raws loaded := by
  induction raws generalizing index loaded with
  | nil =>
      rw [nodes] at hok
      cases hok
      exact .nil
  | cons raw rest ih =>
      rw [nodes] at hok
      obtain ⟨first, hfirst, hok⟩ := exists_of_bind_eq_ok hok
      obtain ⟨others, hothers, hok⟩ := exists_of_bind_eq_ok hok
      cases hok
      exact .cons (reads_of_nodeOf hfirst) (ih hothers)

theorem forall₂_reads_of_unplaced_eq {raws : List Value} {read moved : List Node}
    (hreads : List.Forall₂ Reads raws read)
    (hsame : moved.map Node.unplaced = read.map Node.unplaced) :
    List.Forall₂ Reads raws moved := by
  induction hreads generalizing moved with
  | nil =>
      rw [List.map_eq_nil_iff.mp hsame]
      exact .nil
  | cons hfirst _ ih =>
      obtain ⟨node, rest, rfl, hnode, hrest⟩ := List.map_eq_cons_iff.mp hsame
      exact .cons (hfirst.of_unplaced_eq hnode) (ih hrest)

/-- A definition with nodes is read node by node, whether or not they are laid out anew. -/
theorem reads_of_document {definition : Value} {title : String} {loaded : Document}
    (hload : document definition title = .ok loaded) (hnodes : writtenNodes definition ≠ []) :
    List.Forall₂ Reads (writtenNodes definition) loaded.nodes := by
  obtain ⟨read, hread, hload⟩ := exists_of_bind_eq_ok hload
  have hreads := reads_of_nodes hread
  cases read with
  | nil => exact absurd (List.forall₂_nil_right_iff.mp hreads) hnodes
  | cons first rest =>
      obtain ⟨laid, -, hload⟩ := exists_of_bind_eq_ok hload
      cases hload
      cases laid with
      | false => exact hreads
      | true => exact forall₂_reads_of_unplaced_eq hreads (Layout.map_unplaced_place _ _ _)

end Load

open Load

/-- What is kept of a written node in the step that is saved in its place. -/
structure Resaved (raw : Value) (step : Step) : Prop where
  enabled_eq : enabledOf step.toWire = enabledOf raw
  join_eq_iff : joinOf step.toWire = joinOf raw ↔ joinOf raw = "all"
  onError_eq_iff : onErrorOf step.toWire = onErrorOf raw ↔ onErrorOf raw = "fail_fast"

theorem Load.Reads.resaved {raw : Value} {node : Node} (hreads : Reads raw node)
    (stepId key : String) : Resaved raw (step node stepId key) := by
  have hjoin : joinOf (step node stepId key).toWire = "all" := by
    simp [joinOf, Step.field_toWire, firstText]
  have honError : onErrorOf (step node stepId key).toWire = "fail_fast" := by
    simp [onErrorOf, Step.field_toWire, firstText]
  constructor
  case enabled_eq =>
    rw [← hreads.enabled_eq]
    exact enabled_toWire _
  case join_eq_iff => rw [hjoin, eq_comm]
  case onError_eq_iff => rw [honError, eq_comm]

section Saved

variable {raws : List Value} {nodes : List Node} (hreads : List.Forall₂ Reads raws nodes)

include hreads

theorem exists_reads_of_mem {node : Node} (hnode : node ∈ nodes) :
    ∃ raw ∈ raws, Reads raw node := by
  induction hreads with
  | nil => cases hnode
  | cons hfirst _ ih =>
      rcases List.mem_cons.mp hnode with rfl | hrest
      · exact ⟨_, List.mem_cons_self, hfirst⟩
      · obtain ⟨raw, hraw, hread⟩ := ih hrest
        exact ⟨raw, List.mem_cons_of_mem _ hraw, hread⟩

/-- Every node that was read is executed. -/
theorem map_node_placed_of_reads : (placed nodes).map Placement.node = nodes := by
  rw [placed, map_node_placements]
  apply List.filter_eq_self.mpr
  intro node hnode
  obtain ⟨raw, -, hread⟩ := exists_reads_of_mem hreads hnode
  simpa using hread.executed

/-- Nodes that were read can be saved. -/
theorem exists_definition_of_reads (hne : raws ≠ []) (policy : Policy) (edges : List Edge) :
    ∃ saved, Compile.definition policy nodes edges = .ok saved := by
  apply exists_definition policy edges
  · intro hnone
    have hnodes := map_node_placed_of_reads hreads
    rw [hnone, List.map_nil] at hnodes
    subst hnodes
    exact hne (List.forall₂_nil_right_iff.mp hreads)
  · intro node hnode
    obtain ⟨raw, -, hread⟩ := exists_reads_of_mem hreads hnode
    exact hread.version_fits

theorem resaved_of_reads {edges : List Edge} {saved : Definition}
    (hcompiled : Compiled nodes edges saved) : List.Forall₂ Resaved raws saved.steps := by
  rw [hcompiled.steps_eq, List.forall₂_map_right_iff]
  rw [← map_node_placed_of_reads hreads, List.forall₂_map_right_iff] at hreads
  exact hreads.imp fun raw placement hread => hread.resaved placement.stepId _

theorem map_id_of_reads (hfilled : ∀ raw ∈ raws, idOf raw ≠ "") :
    nodes.map Node.id = raws.map idOf := by
  induction hreads with
  | nil => rfl
  | cons hfirst _ ih =>
      obtain ⟨hhead, hrest⟩ := List.forall_mem_cons.mp hfilled
      rw [List.map_cons, List.map_cons, hfirst.id_eq hhead, ih hrest]

/-- Distinct ids that are step ids already are kept. -/
theorem stepIds_of_reads {edges : List Edge} {saved : Definition}
    (hcompiled : Compiled nodes edges saved)
    (hids : ∀ raw ∈ raws, idOf raw ≠ "" ∧ sanitize (idOf raw) = idOf raw)
    (hdistinct : (raws.map idOf).Nodup) : saved.stepIds = raws.map idOf := by
  have hsame := map_id_of_reads hreads fun raw hraw => (hids raw hraw).1
  have hfixed : ∀ node ∈ nodes, node.id ≠ "" ∧ sanitize node.id = node.id := by
    intro node hnode
    have hmem : node.id ∈ raws.map idOf := hsame ▸ List.mem_map_of_mem hnode
    obtain ⟨raw, hraw, hid⟩ := List.mem_map.mp hmem
    exact hid ▸ hids raw hraw
  have hblank : ∀ node ∈ nodes, trim node.id ≠ "" := by
    intro node hnode
    have hstep := isStepId_of_sanitize_eq_self (hfixed node hnode).1 (hfixed node hnode).2
    rw [hstep.trim_eq]
    exact hstep.ne_empty
  have hkept : ∀ placement ∈ placed nodes, placement.stepId = placement.node.id :=
    fun placement hplaced => stepId_of_mem_placements (hsame ▸ hdistinct) hblank
      (fun node hnode _ => (hfixed node hnode).2) (by simp) hplaced
  calc saved.stepIds = (placed nodes).map Placement.stepId := hcompiled.stepIds_eq
    _ = ((placed nodes).map Placement.node).map Node.id := by
        rw [List.map_map]
        exact List.map_congr_left hkept
    _ = raws.map idOf := by rw [map_node_placed_of_reads hreads, hsame]

end Saved

namespace Document

/-- A definition with nodes that loads is saved again with a step for each of them. Whether it is
enabled is kept; how it waits for the steps before it and what it does when it fails are kept if
and only if they are the usual ones. Distinct ids that are step ids already are kept as well. -/
theorem definition_resaves {definition : Value} {title : String} {loaded : Document}
    (hload : Load.document definition title = .ok loaded) (hnodes : writtenNodes definition ≠ [])
    (policy : Policy) :
    ∃ saved, loaded.compile policy = .ok saved ∧
      List.Forall₂ Resaved (writtenNodes definition) saved.steps ∧
      ((∀ raw ∈ writtenNodes definition, idOf raw ≠ "" ∧ sanitize (idOf raw) = idOf raw) →
        ((writtenNodes definition).map idOf).Nodup →
        saved.stepIds = (writtenNodes definition).map idOf) := by
  have hreads := reads_of_document hload hnodes
  obtain ⟨saved, hsaved⟩ := exists_definition_of_reads hreads hnodes policy loaded.edges
  have hcompiled := compiled_of_eq_ok hsaved
  exact ⟨saved, hsaved, resaved_of_reads hreads hcompiled, stepIds_of_reads hreads hcompiled⟩

/-- A step that classifies, with these further fields. -/
def classifier (fields : Fields Value) : Value :=
  .object ([("id", .text "classify"), ("node_type", .text "ai.classify")] ++ fields)

/-- A definition of one step. -/
def single (raw : Value) : Value := .object [("nodes", .list [raw])]

theorem writtenNodes_single (raw : Value) : writtenNodes (single raw) = [raw] := by
  simp [writtenNodes, single, Fields.get?_cons, Value.asList?]

theorem disabled_step_stays_disabled :
    ∃ loaded saved,
      Load.document (single (classifier [("enabled", .bool false)])) "Copy" = .ok loaded ∧
        loaded.compile {} = .ok saved ∧ saved.stepIds = ["classify"] ∧
        saved.steps.map (fun step => enabledOf step.toWire) = [false] := by
  obtain ⟨loaded, hload⟩ : ∃ loaded,
      Load.document (single (classifier [("enabled", .bool false)])) "Copy" = .ok loaded :=
    ⟨_, rfl⟩
  obtain ⟨saved, hsaved, hsteps, hids⟩ :=
    definition_resaves hload (by simp [writtenNodes_single]) {}
  rw [writtenNodes_single] at hsteps hids
  obtain ⟨step, rest, hresaved, hrest, hcons⟩ := List.forall₂_cons_left_iff.mp hsteps
  rw [List.forall₂_nil_left_iff.mp hrest] at hcons
  refine ⟨loaded, saved, hload, hsaved, hids (by decide +kernel) (by decide +kernel), ?_⟩
  rw [hcons, List.map_cons, List.map_nil, hresaved.enabled_eq]
  rfl

/-- A step that waits for any of the steps before it, and that lets the run continue when it fails,
is saved as one that does neither. -/
theorem any_join_is_not_written :
    (writtenNodes (single (classifier [("join", .text "any"), ("on_error", .text "continue")]))).map
        (fun raw => (idOf raw, sanitize (idOf raw), rawKey raw, joinOf raw, onErrorOf raw)) =
      [("classify", "classify", "ai.classify", "any", "continue")] ∧
    (Load.document
        (single (classifier [("join", .text "any"), ("on_error", .text "continue")])) "Copy").bind
        (fun loaded => (loaded.compile {}).map fun saved =>
          saved.steps.map fun step => (step.id, joinOf step.toWire, onErrorOf step.toWire)) =
      .ok [("classify", "all", "fail_fast")] := by
  exact ⟨by decide +kernel, by decide +kernel⟩

end Document

end FlowGraph
