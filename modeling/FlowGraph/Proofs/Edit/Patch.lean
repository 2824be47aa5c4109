/-
# What a patch does to a node

A patch puts the fields that it gives over the data of the node. A change of mode first takes from
the catalog whatever the mode decides, and then fits the bindings to the new mode, unless the patch
gives bindings of its own: the slots that the new mode does not expect go, references to steps that
do not come before are downgraded, and where edges enter the node its empty slots are mapped.
Neither step reads more of the other nodes than their ids, types and modes, and the edges, so what
is said of the document before the patch holds of the document after it.
-/

import FlowGraph.Proofs.Edit.Contents
import FlowGraph.Proofs.Mapping.Reconciled
import FlowGraph.Proofs.Mapping.Rounds

namespace FlowGraph

open Document

namespace Document

variable {document : Document} {node first second : Node}

/-- Of two nodes that are put in one place the last counts. -/
theorem replaceNode_replaceNode (document : Document) (hid : first.id = second.id) :
    (document.replaceNode first).replaceNode second = document.replaceNode second := by
  simp only [replaceNode, withNodes, List.map_map]
  congr 1
  apply List.map_congr_left
  intro other _
  simp only [Function.comp]
  by_cases hother : other.id = second.id
  · simp [hid, hother]
  · simp [hid, hother]

theorem node?_replaceNode (hids : document.nodeIds.Nodup) (hnode : node.id ∈ document.nodeIds) :
    (document.replaceNode node).node? node.id = some node := by
  obtain ⟨original, horiginal, hid⟩ := mem_nodeIds_iff.mp hnode
  apply node?_of_mem
  · rwa [nodeIds_replaceNode]
  · exact List.mem_map.mpr ⟨original, horiginal, if_pos hid⟩

theorem skeleton_replaceNode_congr (document : Document)
    (hsame : first.skeleton = second.skeleton) :
    (document.replaceNode first).skeleton = (document.replaceNode second).skeleton := by
  have hid : first.id = second.id := (congrArg Node.id hsame :)
  refine skeleton_eq_iff.mpr ⟨rfl, ?_, rfl⟩
  simp only [replaceNode, withNodes, List.map_map, hid]
  apply List.map_congr_left
  intro other _
  simp only [Function.comp]
  split
  · exact hsame
  · rfl

theorem mem_nodes_of_mem_incomingSources {id : String}
    (hsource : node ∈ document.incomingSources id) : node ∈ document.nodes := by
  obtain ⟨key, -, hfound⟩ := List.mem_filterMap.mp hsource
  rw [nodeTable, Fields.get?_ofPairs] at hfound
  obtain ⟨other, hother, heq⟩ := List.mem_map.mp (List.mem_reverse.mp (Fields.mem_of_get? hfound))
  exact (Prod.mk.inj heq).2 ▸ hother

end Document

/-- The step is a node of the document and stands at a strictly lower stage than the other one. -/
def Document.Precedes (document : Document) (stepId id : String) : Prop :=
  stepId ∈ document.nodeIds ∧ Stage.canFeed document.stages stepId id = true

theorem Document.SameGraph.precedes_iff {document next : Document}
    (hsame : SameGraph document next) {stepId id : String} :
    next.Precedes stepId id ↔ document.Precedes stepId id := by
  rw [Precedes, Precedes, hsame.nodeIds_eq, hsame.stages_eq]

namespace Mapping

variable {document next : Document} {node : Node} {rule : BindingRule}

theorem wanted_map_skeleton (feeder : Option Node) (rule : BindingRule) :
    wanted (feeder.map Node.skeleton) rule = wanted feeder rule := by
  cases feeder <;> rfl

/-- What a rule asks for is told by the ids, types and modes of the nodes, and the edges. -/
theorem wantedIn_congr (hsame : next.skeleton = document.skeleton) (node : Node)
    (rule : BindingRule) : wantedIn next node rule = wantedIn document node rule := by
  have hskeleton (document : Document) :
      wantedIn document.skeleton node rule = wantedIn document node rule := by
    rw [wantedIn, wantedIn, feeder?, feeder?, stages_skeleton, incomingSources_skeleton,
      List.find?_map, wanted_map_skeleton]
    rfl
  rw [← hskeleton next, hsame, hskeleton]

/-- A step that a rule asks for is one of the nodes, at a lower stage. -/
theorem precedes_of_wantedIn (hrule : rule ∈ rulesOf node) {stepId path : String}
    (hwanted : wantedIn document node rule = .stepOutput stepId path) :
    document.Precedes stepId node.id := by
  obtain ⟨fallback, hfallback⟩ := Binding.isRunInput_iff.mp
    ((compatible_rulesOf node).falls_back rule hrule)
  rw [wantedIn, wanted, hfallback] at hwanted
  cases hfeeder : feeder? node (document.incomingSources node.id) document.stages with
  | none => simp [hfeeder] at hwanted
  | some source =>
      cases houtput : rule.sourceOutput with
      | none => simp [hfeeder, houtput] at hwanted
      | some output =>
          obtain ⟨rfl, -⟩ : source.id = stepId ∧ _ := by simpa [hfeeder, houtput] using hwanted
          have hsource := mem_nodes_of_mem_incomingSources (List.mem_of_find?_eq_some hfeeder)
          exact ⟨List.mem_map_of_mem hsource, by simpa using List.find?_some hfeeder⟩

theorem KeptAs.isMeaningful_eq {readable : String → Prop} {before after : Binding}
    (hkept : KeptAs readable before after) : before.isMeaningful = after.isMeaningful := by
  cases hkept <;> rfl

/-- A slot holds as much content as before where its binding is kept. -/
theorem any_isMeaningful_of_rel {readable : String → Prop} {before after : Option Binding}
    (hkept : Option.Rel (KeptAs readable) before after) :
    before.any Binding.isMeaningful = after.any Binding.isMeaningful := by
  cases hkept with
  | none => rfl
  | some hkept => exact hkept.isMeaningful_eq

/-- The slot of a rule that nothing overrules is empty when the mapping is not forced. -/
theorem holdsBinding_of_not_overruled (hrule : rule ∈ rulesOf node)
    (hopen : ¬ Overruled false node rule) : holdsBinding node.bindings rule.targetKey = false := by
  have hown := (compatible_rulesOf node).own rule hrule
  exact Bool.eq_false_iff.mpr fun hheld => hopen (Or.inr ⟨rfl, rule.targetKey, hown, hheld⟩)

/-- Mapping a node that was just put in place puts what mapping makes of it there instead. -/
theorem getD_autoMap_replaceNode (hids : document.nodeIds.Nodup)
    (hnode : node.id ∈ document.nodeIds) {force : Bool} {edited : Option Document}
    (hok : autoMap (document.replaceNode node) (some node.id) force = .ok edited) :
    edited.getD (document.replaceNode node) =
      document.replaceNode (mapped (document.replaceNode node) force node) := by
  have hplaced : (document.replaceNode node).nodeIds.Nodup := by rwa [nodeIds_replaceNode]
  have hmapped := mappedAt_of_node? hplaced (node?_replaceNode hids hnode) force
  rw [mappedAt, hok, replaceNode_replaceNode document id_mapped.symm] at hmapped
  exact Except.ok.inj hmapped

end Mapping

namespace Edit

open Mapping

variable {document next : Document} {patch : Patch} {node updated : Node} {type : NodeType}
  {mode : Mode} {data : NodeData} {name slot : String}

/-! ## What the mode tells -/

theorem modeRecord?_of_findMode? (htype : Catalog.type? node.type = some type)
    (hmode : type.findMode? (some node.mode) = some mode) : node.modeRecord? = some mode := by
  rw [Node.modeRecord?, Catalog.mode?, Registry.lookupMode?,
    show Catalog.standard.type? node.type = some type from htype, Option.map_some,
    NodeType.modeOrDefault, hmode, Option.getD_some]

theorem rulesOf_of_modeRecord? (hmode : node.modeRecord? = some mode) :
    rulesOf node = mode.bindingRules := by
  rw [rulesOf, hmode, Option.map_some, Option.getD_some]

/-- The slots that the rules of a mode fill are among those that the mode expects. -/
theorem targetKey_mem_expectedTargets (hmode : node.modeRecord? = some mode) {rule : BindingRule}
    (hrule : rule ∈ rulesOf node) : rule.targetKey ∈ mode.expectedTargets := by
  obtain ⟨htrim, hne⟩ := trim_targetKey hrule
  rw [rulesOf_of_modeRecord? hmode] at hrule
  rw [Mode.expectedTargets, mem_distinct_iff, List.mem_filter, List.mem_map]
  refine ⟨⟨rule.targetKey, ?_, htrim⟩, by simpa using hne⟩
  exact List.mem_append_left _ (List.mem_map_of_mem hrule)

/-! ## The course of a patch -/

theorem newMode?_eq_some_iff :
    newMode? patch node = some name ↔ patch.mode = some name ∧ name ≠ node.mode := by
  rw [newMode?, Option.bind_eq_some_iff]
  constructor
  · rintro ⟨mode, hmode, hnew⟩
    split at hnew
    · cases hnew
    · next hne => exact Option.some.inj hnew ▸ ⟨hmode, hne⟩
  · rintro ⟨hmode, hne⟩
    exact ⟨name, hmode, if_neg hne⟩

/-- What a change of mode makes of a patched node: the bindings that still fit, and the empty slots
mapped where edges enter the node. -/
def refitted (document : Document) (patch : Patch) (updated : Node) : Node :=
  if (document.edgesTo updated.id).isEmpty then fitted document patch updated
  else
    mapped (document.replaceNode (fitted document patch updated)) false
      (fitted document patch updated)

/-- A patch puts one node in the place of the node that it names. -/
theorem exists_of_patchNode (hids : document.nodeIds.Nodup)
    (hok : patchNode document patch = .ok next) :
    ∃ node data, document.node? patch.nodeId = some node ∧
      baseData node (newMode? patch node) = .ok data ∧
      next = document.replaceNode
        (if (newMode? patch node).isNone then patched patch node data
          else refitted document patch (patched patch node data)) := by
  obtain ⟨node, hnode, hok⟩ := exists_of_bind_eq_ok hok
  obtain ⟨data, hdata, hok⟩ := exists_of_bind_eq_ok hok
  have hfound := requireNode_eq_ok_iff.mp hnode
  refine ⟨node, data, hfound, hdata, ?_⟩
  simp only at hok
  split at hok
  · next hsame =>
      cases hok
      rw [if_pos hsame]
  · next hchanged =>
      rw [if_neg hchanged, refitted, patched_id]
      split at hok
      · next hedges =>
          cases hok
          rw [if_pos hedges]
      · next hedges =>
          obtain ⟨edited, hmapped, hok⟩ := exists_of_bind_eq_ok hok
          cases hok
          rw [if_neg hedges]
          -- mapping replaces a second time the node that was put in place
          apply getD_autoMap_replaceNode hids
          · rw [fitted_id, patched_id]
            exact List.mem_map_of_mem (mem_of_node? hfound).1
          · rw [fitted_id, patched_id]
            exact hmapped

/-! ## The bindings after a change of mode -/

theorem mem_eligibleSources_iff {stepId id : String} :
    stepId ∈ eligibleSources document id ↔ document.Precedes stepId id := by
  simp [eligibleSources, Precedes]

theorem get?_keptBindings (hmode : node.modeRecord? = some mode) (slot : String) :
    Fields.get? (keptBindings document node) slot =
      if slot ∈ mode.expectedTargets then
        (Fields.get? node.bindings slot).map (downgrade (eligibleSources document node.id))
      else none := by
  have hexpected : (Contract.ofNode (some node)).expectedTargets = mode.expectedTargets := by
    rw [expectedTargets_ofNode, hmode, Option.map_some, Option.getD_some]
  have hread : Fields.get? (reconcile {} (eligibleSources document node.id) node.bindings) slot =
      (Fields.get? node.bindings slot).map (downgrade (eligibleSources document node.id)) :=
    Fields.get?_mapValues _ _ _
  rw [keptBindings, hexpected, Fields.get?_filter_keys mode.expectedTargets.contains, hread]
  simp only [List.contains_iff_mem]

/-- In a slot that the new mode expects a binding is kept, as far as it may be read. -/
theorem rel_keptBindings (hmode : node.modeRecord? = some mode)
    (hslot : slot ∈ mode.expectedTargets) :
    Option.Rel (KeptAs (document.Precedes · node.id)) (Fields.get? node.bindings slot)
      (Fields.get? (keptBindings document node) slot) := by
  have hreadable : (· ∈ eligibleSources document node.id) = (document.Precedes · node.id) :=
    funext fun _ => propext mem_eligibleSources_iff
  rw [get?_keptBindings hmode, if_pos hslot, ← hreadable]
  cases Fields.get? node.bindings slot with
  | none => exact Option.Rel.none
  | some binding => exact Option.Rel.some (keptAs_downgrade _ binding)

/-- The slot holds what a rule of the mode asks for, and edges enter the node. -/
def FilledByRule (document : Document) (node : Node) (mode : Mode) (slot : String) : Prop :=
  document.edgesTo node.id ≠ [] ∧ ∃ rule ∈ mode.bindingRules, rule.targetKey = slot ∧
    Fields.get? node.bindings slot = some (wantedIn document node rule)

/-- What a change of mode has to leave of a node. -/
structure FitsMode (document next : Document) (config : Option (Fields Value)) (node result : Node)
    (mode : Mode) : Prop where
  mode_eq : result.mode = mode.value
  ref_eq : result.data.ref = mode.nodeKey.map fun key => { key }
  implemented_eq : result.data.implemented = mode.implemented
  config_eq : result.config = config.getD mode.defaultConfig
  slots : ∀ slot ∈ Fields.keys result.bindings, slot ∈ mode.expectedTargets
  sources : ∀ slot stepId path,
    Fields.get? result.bindings slot = some (.stepOutput stepId path) →
      next.Precedes stepId result.id
  kept : ∀ slot ∈ mode.expectedTargets,
    Option.Rel (KeptAs (document.Precedes · node.id)) (Fields.get? node.bindings slot)
        (Fields.get? result.bindings slot) ∨
      holdsBinding node.bindings slot = false ∧ FilledByRule next result mode slot

theorem bindings_fitted (document : Document) (hgiven : patch.bindings = none) (updated : Node) :
    (fitted document patch updated).bindings = keptBindings document updated := by
  rw [fitted, hgiven]
  rfl

/-- Whatever does not depend on the bindings, or on whether the node was rebuilt, is kept. -/
theorem refitted_keeps {α : Type} (f : Node → α)
    (hkept : ∀ node bindings, f (node.withBindings bindings) = f node) (document : Document)
    (patch : Patch) (updated : Node) : f (refitted document patch updated) = f updated := by
  have hfitted : f (fitted document patch updated) = f updated := by
    rw [fitted]
    split
    · rfl
    · exact hkept _ _
  rw [refitted]
  split
  · exact hfitted
  · exact (mapped_keeps f (hkept _)).trans hfitted

theorem id_refitted (document : Document) (patch : Patch) (updated : Node) :
    (refitted document patch updated).id = updated.id :=
  refitted_keeps Node.id (fun _ _ => rfl) document patch updated

theorem modeRecord?_refitted (document : Document) (patch : Patch) (updated : Node) :
    (refitted document patch updated).modeRecord? = updated.modeRecord? :=
  refitted_keeps Node.modeRecord? (fun _ _ => rfl) document patch updated

theorem sameGraph_replaceNode_refitted (hids : document.nodeIds.Nodup)
    (hupdated : (updated.id, updated.type) ∈ document.outline) (patch : Patch) :
    SameGraph document (document.replaceNode (refitted document patch updated)) := by
  apply sameGraph_replaceNode hids
  rwa [id_refitted, refitted_keeps Node.type (fun _ _ => rfl)]

/-- Slots that the new mode does not expect are gone. -/
theorem mem_expectedTargets_of_refitted (hgiven : patch.bindings = none)
    (hmode : updated.modeRecord? = some mode)
    (hslot : slot ∈ Fields.keys (refitted document patch updated).bindings) :
    slot ∈ mode.expectedTargets := by
  by_contra hforeign
  refine Fields.get?_eq_none_iff.mp ?_ hslot
  have hfitted : Fields.get? (fitted document patch updated).bindings slot = none := by
    rw [bindings_fitted document hgiven, get?_keptBindings hmode, if_neg hforeign]
  rw [refitted]
  split
  · exact hfitted
  · rw [get?_mapped_of_overruled, hfitted]
    rintro rule hrule rfl
    refine absurd (targetKey_mem_expectedTargets ?_ hrule) hforeign
    rw [fitted, hgiven]
    exact hmode

/-- In a slot that the new mode expects a binding is kept, unless the slot is empty and mapped. -/
theorem kept_refitted (document : Document) (hgiven : patch.bindings = none)
    (hmode : updated.modeRecord? = some mode) (hslot : slot ∈ mode.expectedTargets) :
    Option.Rel (KeptAs (document.Precedes · updated.id)) (Fields.get? updated.bindings slot)
        (Fields.get? (refitted document patch updated).bindings slot) ∨
      holdsBinding updated.bindings slot = false ∧
        FilledByRule (document.replaceNode (refitted document patch updated))
          (refitted document patch updated) mode slot := by
  have hfitted : Option.Rel (KeptAs (document.Precedes · updated.id))
      (Fields.get? updated.bindings slot)
      (Fields.get? (fitted document patch updated).bindings slot) := by
    rw [bindings_fitted document hgiven]
    exact rel_keptBindings hmode hslot
  have hrules : rulesOf (fitted document patch updated) = mode.bindingRules := by
    apply rulesOf_of_modeRecord?
    rw [fitted, hgiven]
    exact hmode
  rw [refitted]
  split
  · exact Or.inl hfitted
  · next hedges =>
      -- a rule that nothing overrules fills its slot, and every other slot stays as it was fitted
      by_cases hopen : ∃ rule ∈ rulesOf (fitted document patch updated),
          rule.targetKey = slot ∧ ¬ Overruled false (fitted document patch updated) rule
      · obtain ⟨rule, hrule, rfl, hopen⟩ := hopen
        refine Or.inr ⟨?_, ?_, rule, hrules ▸ hrule, rfl, ?_⟩
        · rw [holdsBinding, any_isMeaningful_of_rel hfitted]
          exact holdsBinding_of_not_overruled hrule hopen
        · rw [id_mapped, fitted_id]
          exact fun hnone => hedges (List.isEmpty_iff.mpr hnone)
        · rw [get?_mapped_of_open hrule hopen, wantedIn_mapped]
          exact congrArg some (wantedIn_congr
            (skeleton_replaceNode_congr document skeleton_mapped.symm) _ rule)
      · push Not at hopen
        rw [get?_mapped_of_overruled hopen]
        exact Or.inl hfitted

/-- A step that a slot refers to after a change of mode comes before the node. -/
theorem precedes_of_refitted (hids : document.nodeIds.Nodup)
    (hupdated : (updated.id, updated.type) ∈ document.outline) (hgiven : patch.bindings = none)
    (hmode : updated.modeRecord? = some mode) {stepId path : String}
    (hreads : Fields.get? (refitted document patch updated).bindings slot =
      some (.stepOutput stepId path)) :
    (document.replaceNode (refitted document patch updated)).Precedes stepId
      (refitted document patch updated).id := by
  have hmem : slot ∈ Fields.keys (refitted document patch updated).bindings :=
    List.mem_map_of_mem (Fields.mem_of_get? hreads)
  have hslot := mem_expectedTargets_of_refitted hgiven hmode hmem
  rcases kept_refitted document hgiven hmode hslot with
    hkept | ⟨-, -, rule, hrule, -, hwanted⟩
  · rw [hreads] at hkept
    rw [id_refitted, (sameGraph_replaceNode_refitted hids hupdated patch).precedes_iff]
    generalize Fields.get? updated.bindings slot = before at hkept
    cases hkept with
    | some hkept => exact hkept.readable stepId rfl
  · rw [← rulesOf_of_modeRecord? (modeRecord?_refitted document patch updated ▸ hmode)] at hrule
    exact precedes_of_wantedIn hrule (Option.some.inj (hwanted.symm.trans hreads))

/-- A patched node that was switched to another mode fits that mode. -/
theorem fitsMode_refitted (hids : document.nodeIds.Nodup) (hnode : node ∈ document.nodes)
    (hgiven : patch.bindings = none) (htype : Catalog.type? node.type = some type)
    (hmode : type.findMode? (some mode.value) = some mode) :
    FitsMode document
      (document.replaceNode (refitted document patch (patched patch node (switched node mode))))
      patch.config node (refitted document patch (patched patch node (switched node mode)))
      mode := by
  have hrecord : (patched patch node (switched node mode)).modeRecord? = some mode :=
    modeRecord?_of_findMode? htype hmode
  have hbindings : (patched patch node (switched node mode)).bindings = node.bindings := by
    rw [patched, hgiven]
    rfl
  have houtline : ((patched patch node (switched node mode)).id,
      (patched patch node (switched node mode)).type) ∈ document.outline :=
    mem_outline_iff.mpr ⟨node, hnode, rfl, rfl⟩
  constructor
  · exact refitted_keeps Node.mode (fun _ _ => rfl) _ _ _
  · exact refitted_keeps (fun node => node.data.ref) (fun _ _ => rfl) _ _ _
  · exact refitted_keeps (fun node => node.data.implemented) (fun _ _ => rfl) _ _ _
  · exact refitted_keeps Node.config (fun _ _ => rfl) _ _ _
  · intro slot hslot
    exact mem_expectedTargets_of_refitted hgiven hrecord hslot
  · intro slot stepId path hreads
    exact precedes_of_refitted hids houtline hgiven hrecord hreads
  · intro slot hslot
    rw [← hbindings]
    exact kept_refitted document hgiven hrecord hslot

/-- A change of mode fits the node to its new mode: what the mode decides comes from the catalog,
the configuration from there or from the patch, only slots that the mode expects are bound and only
to steps that come before, what was bound in these slots is kept as far as it may still be read, and
only empty slots are filled, by mapping. -/
theorem mode_change_fits (hids : document.nodeIds.Nodup)
    (hnode : document.node? patch.nodeId = some node) (hname : patch.mode = some name)
    (hchanged : name ≠ node.mode) (hgiven : patch.bindings = none)
    (hok : (Command.patchNode patch).run document = .ok next) :
    ∃ type mode result, Catalog.type? node.type = some type ∧
      type.findMode? (some name) = some mode ∧ next.node? patch.nodeId = some result ∧
        FitsMode document next patch.config node result mode := by
  obtain ⟨changed, happlied, rfl⟩ := Command.exists_of_run hok
  obtain ⟨edited, hedited, rfl⟩ := exists_of_map_eq_ok happlied
  obtain ⟨found, data, hfound, hdata, hnext⟩ := exists_of_patchNode hids hedited
  obtain rfl : node = found := Option.some.inj (hnode.symm.trans hfound)
  obtain ⟨hmem, hid⟩ := mem_of_node? hnode
  rw [newMode?_eq_some_iff.mpr ⟨hname, hchanged⟩] at hdata hnext
  rw [if_neg (by simp)] at hnext
  obtain ⟨type, mode, htype, hmode, rfl⟩ := exists_of_changeMode hdata
  obtain rfl : edited = _ := hnext
  obtain rfl : mode.value = name := by simpa using List.find?_some hmode
  refine ⟨type, mode, _, htype, hmode, ?_, fitsMode_refitted hids hmem hgiven htype hmode⟩
  have hplaced : (refitted document patch (patched patch node (switched node mode))).id = node.id :=
    id_refitted document patch _
  rw [← hid, ← hplaced]
  apply node?_replaceNode hids
  rw [hplaced]
  exact List.mem_map_of_mem hmem

/-- A step behind a folder listing that reads from a step after it. -/
def lateReader : Document where
  nodes :=
    [{ id := "list", type := "records", data := { mode := "list_folder" } },
     { id := "read", type := "ai"
       data :=
        { mode := "extract"
          bindings := [("doc_ids", .stepOutput "late" "doc_ids"), ("note", .runInput "note")] } },
     { id := "late", type := "ai", data := { mode := "generate" } }]
  edges :=
    [{ id := "e1", source := "list", target := "read" },
     { id := "e2", source := "read", target := "late" }]

/-- The step is switched to another mode. -/
theorem mode_change_fits_lateReader :
    lateReader.nodeIds.Nodup ∧ ∃ node next, lateReader.node? "read" = some node ∧
      "classify" ≠ node.mode ∧
      (Command.patchNode { nodeId := "read", mode := some "classify" }).run lateReader = .ok next ∧
      ∃ type mode result, Catalog.type? node.type = some type ∧
        type.findMode? (some "classify") = some mode ∧ next.node? "read" = some result ∧
          FitsMode lateReader next none node result mode := by
  have hids : lateReader.nodeIds.Nodup := by decide
  obtain ⟨node, hnode⟩ : ∃ node, lateReader.node? "read" = some node := ⟨_, rfl⟩
  have hchanged : "classify" ≠ node.mode := by
    obtain rfl := Option.some.inj hnode
    decide
  have hdone : ((Command.patchNode { nodeId := "read", mode := some "classify" }).run
      lateReader).toOption.isSome = true := by decide +kernel
  cases hok : (Command.patchNode { nodeId := "read", mode := some "classify" }).run lateReader with
  | error cause =>
      rw [hok] at hdone
      cases hdone
  | ok next =>
      exact ⟨hids, node, next, hnode, hchanged, rfl,
        mode_change_fits hids hnode rfl hchanged rfl hok⟩

/-- The reference to the later step is downgraded, and the empty slot takes the listing's text. -/
example :
    let patch : Patch := { nodeId := "read", mode := some "classify" }
    (((Command.patchNode patch).run lateReader).toOption.bind fun next =>
        (next.node? "read").map fun result =>
          result.bindings.map fun pair => (pair.1, pair.2.stepId?, pair.2.inputKey?)) =
      some [("doc_ids", none, some "doc_ids"), ("text", some "list", none)] := by decide +kernel

end Edit

end FlowGraph
