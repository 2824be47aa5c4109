/-
# Loading a written step

A written step holds under each name what its step has there, and nothing under any other name.
Loading it therefore finds the type and the mode through the backend key, takes the flags and the
reference from the catalog, which is where the node had them from, and reads the bindings in their
wire form. What comes back is the node that was saved except for its place, a label that is
trimmed, and a configuration in which two things may differ: the sample input of a trigger is
cleared, and a configuration without any setting is not written, so that the one of a new node
takes its place.
-/

import FlowGraph.Definition.Load
import FlowGraph.Proofs.Definition.StepId
import FlowGraph.Proofs.Edit.Contents

namespace FlowGraph

open Compile Text

@[simp]
theorem Fields.get?_member (name : String) (value : Option Value) (key : String) :
    Fields.get? (member name value) key = if name = key then value else none := by
  cases value <;> simp [member, Fields.get?_cons]

namespace Value

@[simp]
theorem fields_object (fields : Fields Value) : (object fields).fields = fields := rfl

@[simp]
theorem field_object (fields : Fields Value) (name : String) :
    (object fields).field name = (Fields.get? fields name).getD null := rfl

@[simp]
theorem plainText_null : null.plainText = "" := rfl

@[simp]
theorem plainText_text (s : String) : (text s).plainText = trim s := rfl

end Value

theorem asObject?_filled? (fields : Fields Value) :
    ((filled? fields).getD .null).asObject? = if fields.isEmpty then none else some fields := by
  unfold filled?
  split <;> rfl

theorem fields_filled? (fields : Fields Value) : ((filled? fields).getD .null).fields = fields := by
  cases fields <;> rfl

/-- What the written form of a step holds under each name. -/
theorem Step.field_toWire (step : Step) (name : String) :
    step.toWire.field name =
      if name = "id" then .text step.id
      else if name = "node_type" then .text step.nodeKey
      else if name = "title" then .text step.title
      else if name = "node_ref" then (step.ref.map NodeRef.toWire).getD .null
      else if name = "config" then (filled? step.config).getD .null
      else if name = "input_bindings" then (filled? step.bindings).getD .null
      else if name = "assignee" then (step.assignee.map .object).getD .null
      else if name = "enabled" then if step.enabled then .null else .bool false
      else if name = "metadata" then .object step.metadata
      else .null := by
  repeat' split
  all_goals simp_all [Step.toWire, Fields.get?_append, Fields.get?_cons, @eq_comm _ _ name]

namespace Node

/-- The written form of an executed node whose id is a step id already. -/
def toWire (node : Node) : Value := (step node node.id (nodeKey node)).toWire

/-- The node without its place. -/
def unplaced (node : Node) : Node := { node with position := none }

/-- The configuration of a node after it was saved and loaded. -/
def reloadedConfig (node : Node) : Fields Value :=
  if node.isSourceOnly then Fields.set node.config "input" (.object [])
  else if node.config.isEmpty then (node.modeRecord?.map Mode.defaultConfig).getD []
  else node.config

/-- A node after it was saved and loaded. -/
def reloaded (node : Node) : Node :=
  { node with
    label := orText (trim node.label) node.id
    data :=
      { node.data with
        config := node.reloadedConfig
        bindings := Binding.parsePairs (Binding.toWireAll node.bindings) } }

variable {node : Node} {type : NodeType} {mode : Mode}

/-- What is known about an executed node from its type and its mode. -/
theorem IsOf.exists_key (hnode : node.IsOf type mode) (hexecuted : type.builderOnly = false) :
    ∃ key, mode.nodeKey = some key ∧ key ≠ "" ∧ trim key = key ∧ nodeKey node = key ∧
      ∀ config bindings, { node.data with config := config, bindings := bindings } =
        { mode := mode.value, ref := some { key }, config, bindings
          enabled := node.data.enabled, implemented := mode.implemented
          metadata := [("ui", .object [])] } := by
  obtain ⟨key, hkey, hne, htrim⟩ := Catalog.exists_key hnode.type_mem hexecuted hnode.mode_mem
  have hdata := hnode.data_isOf
  rw [NodeData.IsOf,
    Catalog.freshData_of_mem hnode.type_mem hexecuted hnode.mode_mem hkey hne] at hdata
  have hrefKey : node.refKey = key := by
    rw [refKey, hdata]
    rfl
  have hbuilder : node.isBuilderOnly = false := by
    simp [isBuilderOnly, hnode.kind?_eq, hexecuted]
  refine ⟨key, hkey, hne, htrim, ?_, fun config bindings => by rw [hdata]⟩
  simp [nodeKey, hbuilder, hrefKey, htrim, orText, hne]

theorem get?_reloadedConfig {name : String} (hname : name ≠ "input") {held : Value}
    (hheld : Fields.get? node.config name = some held) :
    Fields.get? node.reloadedConfig name = some held := by
  rw [reloadedConfig]
  split
  · rw [Fields.get?_set, if_neg hname.symm, hheld]
  · split
    · rename_i hempty
      simp [List.isEmpty_iff.mp hempty] at hheld
    · exact hheld

/-- A setting that is a mapping stands in the configuration. -/
theorem get?_config_of_setting {name : String} {held : Fields Value}
    (hheld : (node.setting name).asObject? = some held) :
    Fields.get? node.config name = some (.object held) := by
  rw [setting] at hheld
  cases hfound : Fields.get? node.config name with
  | none =>
      rw [hfound] at hheld
      cases hheld
  | some value =>
      rw [hfound] at hheld
      cases value <;> cases hheld
      rfl

end Node

namespace Load

variable {node : Node} {type : NodeType} {mode : Mode}

/-- The place of a node can always be read from its step, since it was written from coordinates. -/
theorem exists_position (node : Node) (stepId key : String) (index : Nat) :
    ∃ place, position (step node stepId key).toWire (.ofIndex index) = .ok (.ok place) := by
  have hdrawn : drawnPlace (step node stepId key).toWire = node.positionValue.fields := by
    have hmetadata : (step node stepId key).toWire.field "metadata" =
        .object (savedMetadata node) := by
      simp [Step.field_toWire, step]
    have hempty : (step node stepId key).toWire.field "position" = .null := by
      simp [Step.field_toWire]
    have hplace : (((Value.object (savedMetadata node)).field "ui").field "position") =
        node.positionValue := by
      simp [savedMetadata, Fields.get?_set]
    rw [drawnPlace, hmetadata, hplace, hempty]
    cases hfields : node.positionValue.fields <;> rfl
  rw [position, hdrawn]
  split
  · exact ⟨_, rfl⟩
  · have haxis (name : String) : ∃ x,
        Schema.float ((Fields.get? node.positionValue.fields name).getD (.int 0)) = .ok x := by
      have hzero : ∃ x, Schema.float (.int 0) = .ok x :=
        ⟨_, by rw [Schema.float, if_pos (by decide +kernel)]⟩
      cases hplace : node.position with
      | none =>
          simp only [Node.positionValue, hplace, Value.fields, Fields.get?_cons, Fields.get?_nil]
          split
          · exact hzero
          · split <;> exact hzero
      | some places =>
          simp only [Node.positionValue, hplace, Value.fields, Fields.get?_mapValues]
          cases Fields.get? places name with
          | none => exact hzero
          | some x => exact ⟨x, rfl⟩
    obtain ⟨x, hx⟩ := haxis "x"
    obtain ⟨y, hy⟩ := haxis "y"
    simp only [hx, hy]
    exact ⟨_, rfl⟩

/-- A written node with an id of its own keeps it. -/
theorem nodeId_eq {raw : Value} (hid : (raw.field "id").plainText ≠ "") (name : String)
    (fallback : Fallback) : nodeId raw name fallback = .ok (raw.field "id").plainText := by
  rw [nodeId]
  split
  · exact absurd ‹_› hid
  · rfl

theorem nodeId_toWire (hid : IsStepId node.id) (name : String) (fallback : Fallback) :
    nodeId node.toWire name fallback = .ok node.id := by
  have hown : (node.toWire.field "id").plainText = node.id := by
    simp [Node.toWire, Step.field_toWire, step, hid.trim_eq]
  rw [nodeId_eq (by rw [hown]; exact hid.ne_empty), hown]

/-- The label comes back trimmed, and a blank one as the id. -/
theorem label_toWire (hid : IsStepId node.id) :
    firstText
        [(node.toWire.field "title").plainText, (node.toWire.field "label").plainText,
         (node.toWire.field "name").plainText, node.id] =
      orText (trim node.label) node.id := by
  have hblank : trim "" = "" := rfl
  have htitle : (node.toWire.field "title").plainText = orText (trim node.label) node.id := by
    by_cases hlabel : node.label = ""
    · simp [Node.toWire, Step.field_toWire, step, orText, hlabel, hblank, hid.trim_eq]
    · by_cases htrim : trim node.label = ""
      · simp [Node.toWire, Step.field_toWire, step, orText, hlabel, htrim, hid.trim_eq]
      · simp [Node.toWire, Step.field_toWire, step, orText, hlabel, htrim]
  have hfilled : orText (trim node.label) node.id ≠ "" := by
    by_cases hlabel : trim node.label = "" <;> simp [orText, hlabel, hid.ne_empty]
  rw [firstText, htitle, if_neg hfilled]
  exact fun hnone => by cases hnone

/-- Whether a step is enabled can be read from its written form. -/
theorem enabled_toWire (step : Step) : (!isFalse (step.toWire.field "enabled")) = step.enabled := by
  by_cases henabled : step.enabled = true <;> simp [Step.field_toWire, henabled, isFalse]

theorem asObject?_assignee : (node.toWire.field "assignee").asObject? =
    if node.type = "human" then (node.setting "assignee").asObject? else none := by
  have hwritten (assigned : Option (Fields Value)) :
      ((assigned.map Value.object).getD .null).asObject? = assigned := by
    cases assigned <;> rfl
  simp [Node.toWire, Step.field_toWire, step, hwritten]

section Executed

variable (hnode : node.IsOf type mode) (hexecuted : type.builderOnly = false)

include hnode hexecuted

theorem rawRef_toWire {key : String} (hkey : nodeKey node = key) :
    rawRef node.toWire = .object [("key", .text key)] := by
  obtain ⟨_, -, hne, htrim, rfl, hdata⟩ := hnode.exists_key hexecuted
  have href : node.data.ref = some { key := nodeKey node } :=
    congrArg NodeData.ref (hdata node.config node.bindings)
  have hsaved : node.toWire.field "node_ref" = .object [("key", .text (nodeKey node))] := by
    simp [Node.toWire, Step.field_toWire]
    simp [step, href, savedRef, htrim, hne, NodeRef.toWire, member]
  simp [rawRef, hsaved, hkey]

theorem rawKey_toWire : rawKey node.toWire = nodeKey node := by
  obtain ⟨_, -, hne, htrim, rfl, -⟩ := hnode.exists_key hexecuted
  simp [rawKey, rawRef_toWire hnode hexecuted rfl, Fields.get?_cons, firstText, htrim, hne]

theorem nodeRef_toWire : nodeRef type mode.value (type.freshData (some mode.value)) node.toWire =
    .ok (some { key := nodeKey node }) := by
  obtain ⟨_, -, hne, htrim, rfl, -⟩ := hnode.exists_key hexecuted
  simp [nodeRef, rawRef_toWire hnode hexecuted rfl, Fields.get?_cons, firstText, htrim, hne,
    hexecuted, version, looseFloat?, bind, Except.bind, pure, Except.pure]

/-- The sample input of a node is left out if the node is a trigger. -/
theorem savedConfig_eq : savedConfig (nodeKey node) node.config =
    if type.sourceOnly then Fields.set node.config "input" (.object []) else node.config := by
  obtain ⟨key, hkey, -, -, hnodeKey, -⟩ := hnode.exists_key hexecuted
  have hall : ∀ type ∈ Catalog.palette, ∀ mode ∈ type.modes,
      mode.nodeKey.all (fun key => triggerKeys.contains (lower key) = type.sourceOnly) = true := by
    decide +kernel
  have htrigger : triggerKeys.contains (lower (nodeKey node)) = type.sourceOnly := by
    simpa [hkey, hnodeKey] using hall type hnode.type_mem mode hnode.mode_mem
  rw [savedConfig, htrigger]

/-- Before the assignee is read, the configuration is as the catalog completes it. -/
theorem heldConfig_toWire :
    (if type.sourceOnly then
        Fields.set (((node.toWire.field "config").asObject?).getD mode.defaultConfig) "input"
          (.object [])
      else ((node.toWire.field "config").asObject?).getD mode.defaultConfig) =
      node.reloadedConfig := by
  have hheld : (node.toWire.field "config").asObject? =
      if (savedConfig (nodeKey node) node.config).isEmpty then none
      else some (savedConfig (nodeKey node) node.config) := by
    simp [Node.toWire, Step.field_toWire, step, asObject?_filled?]
  rw [hheld, savedConfig_eq hnode hexecuted, Node.reloadedConfig, hnode.isSourceOnly_eq,
    hnode.modeRecord?_eq]
  cases type.sourceOnly with
  | true =>
      have hfilled : (Fields.set node.config "input" (.object [])).isEmpty = false := by
        apply List.isEmpty_eq_false_iff_exists_mem.mpr
        exact ⟨("input", .object []), Fields.mem_of_get? (by rw [Fields.get?_set, if_pos rfl])⟩
      simp [hfilled, Fields.set_set]
  | false => cases hconfig : node.config <;> rfl

/-- The configuration comes back as the catalog completes it. The assignee of a person is written
beside it and stored into it again, where it still stands. -/
theorem config_toWire :
    config type (type.freshData (some mode.value)) node.toWire = node.reloadedConfig := by
  obtain ⟨key, hkey, hne, -⟩ := hnode.exists_key hexecuted
  have hdefaults : (type.freshData (some mode.value)).config = mode.defaultConfig := by
    rw [Catalog.freshData_of_mem hnode.type_mem hexecuted hnode.mode_mem hkey hne]
  simp only [config, hdefaults, heldConfig_toWire hnode hexecuted, asObject?_assignee,
    ← hnode.type_eq]
  by_cases hhuman : node.type = "human"
  · simp only [if_pos hhuman]
    split
    · rename_i assignee hassigned
      apply Fields.set_eq_self
      exact Node.get?_reloadedConfig (by decide) (Node.get?_config_of_setting hassigned)
    · rfl
  · simp only [if_neg hhuman]

/-- A written node comes back up to its place. -/
theorem exists_nodeOf_toWire (hid : IsStepId node.id) (index : Nat) :
    ∃ loaded, nodeOf node.toWire.fields (.ofIndex index) = .ok loaded ∧
      loaded.unplaced = node.reloaded.unplaced := by
  obtain ⟨key, hkey, hne, htrim, hnodeKey, hdata⟩ := hnode.exists_key hexecuted
  obtain ⟨place, hplace⟩ : ∃ place, position node.toWire (.ofIndex index) = .ok (.ok place) :=
    exists_position node node.id (nodeKey node) index
  have hresolve := Catalog.resolveKey_of_mem hnode.type_mem hnode.mode_mem hkey hne htrim
  have hfresh := Catalog.freshData_of_mem hnode.type_mem hexecuted hnode.mode_mem hkey hne
  have hbindings : (node.toWire.field "input_bindings").fields =
      Binding.toWireAll node.bindings := by
    simp [Node.toWire, Step.field_toWire, step, fields_filled?]
  have henabled : (!isFalse (node.toWire.field "enabled")) = node.data.enabled :=
    enabled_toWire _
  have hjoin : node.toWire.field "join" = .null := by
    simp [Node.toWire, Step.field_toWire]
  have honError : node.toWire.field "on_error" = .null := by
    simp [Node.toWire, Step.field_toWire]
  have hobject : Value.object node.toWire.fields = node.toWire := rfl
  simp only [nodeOf, hobject, rawKey_toWire hnode hexecuted, hnodeKey, hresolve,
    Catalog.require_of_mem hnode.type_mem, nodeId_toWire hid, nodeRef_toWire hnode hexecuted,
    config_toWire hnode hexecuted, hplace, bind, Except.bind, pure, Except.pure]
  refine ⟨_, rfl, ?_⟩
  simp only [Node.unplaced, Node.reloaded, label_toWire hid, hdata, hfresh, hjoin, honError,
    henabled, Binding.parseAll, hbindings, hnode.type_eq]
  rfl

end Executed

end Load

end FlowGraph
