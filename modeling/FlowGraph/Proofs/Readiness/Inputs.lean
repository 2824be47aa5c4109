/-
# Run inputs make up for what is missing

Every requirement that is no setup has a slot for a run input, under a key that stays as it is
when it is read as a path. The run inputs that a document asks for are collected from what is
missing on its nodes. Once the first trigger holds a sample value for each of them and the slots
are bound to them, nothing is missing that was not missing before, and only setup is left.

The trigger has no requirements of its own, so its configuration can be changed without a check
taking notice other than through the sample inputs.
-/

import FlowGraph.Proofs.Catalog
import FlowGraph.Proofs.Edit.Soundness
import FlowGraph.Proofs.Readiness.Context

namespace FlowGraph

open Text

/-! ## Requirements that a run input can meet -/

/-- The key of the input is in lower case, and a path of this text reads that key. -/
def RuntimeInput.hasOwnKey (input : RuntimeInput) : Bool :=
  input.inputKey ≠ "" && Path.firstKey input.inputKey = input.inputKey &&
    lower input.inputKey = input.inputKey

/-- The requirement is met by a run input under a key of its own, bound to its first slot. -/
def Requirement.isSuppliable (requirement : Requirement) : Bool :=
  requirement.check.isNone && !requirement.bindingKeys.isEmpty &&
    requirement.runtimeInput.any RuntimeInput.hasOwnKey

theorem Requirement.exists_of_isSuppliable {requirement : Requirement}
    (hsuppliable : requirement.isSuppliable = true) :
    requirement.check = none ∧ ∃ slot rest input, requirement.bindingKeys = slot :: rest ∧
      requirement.runtimeInput = some input ∧ input.hasOwnKey = true := by
  simp only [isSuppliable, Bool.and_eq_true, Option.isNone_iff_eq_none, Bool.not_eq_true',
    List.isEmpty_eq_false_iff, Option.any_eq_true] at hsuppliable
  obtain ⟨⟨hcheck, hslots⟩, input, hinput, hkey⟩ := hsuppliable
  obtain ⟨slot, rest, hlist⟩ := List.exists_cons_of_ne_nil hslots
  exact ⟨hcheck, slot, rest, input, hlist, hinput, hkey⟩

namespace Readiness

/-- Every requirement is setup or can be met by a run input. -/
theorem setup_or_isSuppliable {node : Node} {requirement : Requirement}
    (hrequirement : requirement ∈ requirementsFor node) :
    requirement.setup = true ∨ requirement.isSuppliable = true := by
  have hmodes : ∀ type ∈ Catalog.palette, ∀ mode ∈ type.modes,
      ∀ requirement ∈ mode.requirements,
        requirement.setup = true ∨ requirement.isSuppliable = true := by decide +kernel
  have hrules : ∀ requirements ∈ Catalog.specializedRules.map Prod.snd,
      ∀ requirement ∈ requirements,
        requirement.setup = true ∨ requirement.isSuppliable = true := by decide +kernel
  rw [requirementsFor] at hrequirement
  split at hrequirement
  · cases hrequirement
  · split at hrequirement
    · rename_i hspecialized
      exact hrules _ (Catalog.mem_of_specialized? hspecialized) requirement hrequirement
    · rw [Node.modeRecord?, Catalog.mode?, Registry.lookupMode?] at hrequirement
      cases htype : Catalog.standard.type? node.type with
      | none =>
          rw [htype] at hrequirement
          cases hrequirement
      | some type =>
          rw [htype] at hrequirement
          have hmem := (Catalog.type?_eq_some_iff.mp htype).1
          exact hmodes type hmem _ (Catalog.modeOrDefault_mem hmem _) requirement hrequirement

/-- A trigger has no requirements. -/
theorem requirementsFor_trigger {node : Node} (htype : node.type = "trigger") :
    requirementsFor node = [] := by
  have hsource : (Catalog.type? "trigger").any NodeType.sourceOnly = true := by decide +kernel
  rw [requirementsFor, Node.isSourceOnly, Node.kind?, htype, hsource]
  rfl

theorem requirementsFor_of_trigger {document : Document} (hids : document.nodeIds.Nodup)
    {node : Node} (hnode : node ∈ document.nodes)
    (htrigger : (document.trigger?.any fun trigger => trigger.id = node.id) = true) :
    requirementsFor node = [] := by
  obtain ⟨trigger, hfound, hid⟩ := (Option.any_eq_true ..).mp htrigger
  have htype : trigger.type = "trigger" := by simpa using List.find?_some hfound
  have hsame : trigger = node :=
    Document.node_eq_of_id_eq hids (List.mem_of_find?_eq_some hfound) hnode (by simpa using hid)
  exact requirementsFor_trigger (hsame ▸ htype)

/-! ## Collecting the run inputs -/

/-- The table holds what the entries ask for: under every key a requirement for it that some entry
brought, with the slots of all entries of that key. -/
structure Collected (entries : List (RuntimeInput × InputTarget))
    (table : Fields InputRequirement) : Prop where
  distinct : (Fields.keys table).Nodup
  origin : ∀ key requirement, Fields.get? table key = some requirement →
    requirement.input.inputKey = key ∧ requirement.input ∈ entries.map Prod.fst
  complete : ∀ entry ∈ entries, ∃ requirement,
    Fields.get? table entry.1.inputKey = some requirement ∧ entry.2 ∈ requirement.targets

variable {entries : List (RuntimeInput × InputTarget)} {table : Fields InputRequirement}

/-- Adding a slot stores a requirement that has it, along with the slots that were there. -/
theorem addInput_eq (table : Fields InputRequirement) (input : RuntimeInput)
    (target : InputTarget) :
    ∃ held : InputRequirement, addInput table (input, target) =
        Fields.set table input.inputKey held ∧ target ∈ held.targets ∧
      (held.input = input ∨ ∃ known, Fields.get? table input.inputKey = some known ∧
        held.input = known.input) ∧
      ∀ known, Fields.get? table input.inputKey = some known → known.targets ⊆ held.targets := by
  rw [addInput]
  cases hknown : Fields.get? table input.inputKey with
  | some known =>
      refine ⟨{ known with targets := known.targets ++ [target] }, rfl, by simp,
        Or.inr ⟨known, rfl, rfl⟩, fun other hother => ?_⟩
      cases hother
      exact List.subset_append_left _ _
  | none => exact ⟨{ input, targets := [target] }, rfl, by simp, Or.inl rfl, nofun⟩

theorem Collected.addInput (hcollected : Collected entries table)
    (entry : RuntimeInput × InputTarget) :
    Collected (entries ++ [entry]) (addInput table entry) := by
  obtain ⟨input, target⟩ := entry
  obtain ⟨held, hadd, htarget, hinput, htargets⟩ := addInput_eq table input target
  rw [hadd]
  refine ⟨Fields.nodup_keys_set hcollected.distinct _ _, fun key requirement hfound => ?_,
    fun entry hentry => ?_⟩
  · rw [Fields.get?_set] at hfound
    rw [List.map_append, List.mem_append]
    split at hfound
    · rename_i hkey
      cases hfound
      rcases hinput with hnew | ⟨known, hknown, hold⟩
      · exact ⟨by rw [hnew, hkey], Or.inr (by simp [hnew])⟩
      · obtain ⟨hkept, hmem⟩ := hcollected.origin _ known hknown
        rw [hold]
        exact ⟨hkept.trans hkey, Or.inl hmem⟩
    · obtain ⟨hkept, hmem⟩ := hcollected.origin key requirement hfound
      exact ⟨hkept, Or.inl hmem⟩
  · rw [Fields.get?_set]
    rcases List.mem_append.mp hentry with hold | hnew
    · obtain ⟨requirement, hfound, hmem⟩ := hcollected.complete entry hold
      split
      · rename_i hkey
        exact ⟨held, rfl, htargets requirement (hkey ▸ hfound) hmem⟩
      · exact ⟨requirement, hfound, hmem⟩
    · obtain rfl := List.mem_singleton.mp hnew
      exact ⟨held, if_pos rfl, htarget⟩

theorem Collected.foldl (hcollected : Collected entries table)
    (more : List (RuntimeInput × InputTarget)) :
    Collected (entries ++ more) (more.foldl Readiness.addInput table) := by
  induction more generalizing entries table with
  | nil => simpa using hcollected
  | cons entry rest ih =>
      rw [List.foldl_cons, List.append_cons]
      exact ih (hcollected.addInput entry)

theorem collected_openInputs (document : Document) :
    Collected (openInputs document) ((openInputs document).foldl addInput []) := by
  have hempty : Collected [] [] := ⟨List.nodup_nil, by simp, by simp⟩
  exact hempty.foldl (openInputs document)

variable {document : Document}

theorem mem_openInputs_iff {entry : RuntimeInput × InputTarget} :
    entry ∈ openInputs document ↔ ∃ node ∈ document.nodes,
      ∃ requirement ∈ missing document document.stages node, requirement.setup = false ∧
        ∃ input, requirement.runtimeInput = some input ∧
          entry = (input, ⟨node.id, requirement.bindingKeys.headD input.inputKey⟩) := by
  simp only [openInputs, List.mem_flatMap, List.mem_filterMap]
  refine exists_congr fun node => and_congr_right fun _ =>
    exists_congr fun requirement => and_congr_right fun _ => ?_
  cases requirement.setup <;> simp [eq_comm]

/-- Every slot that could be filled is a target of the requirement for its input. -/
theorem exists_inputRequirement {entry : RuntimeInput × InputTarget}
    (hentry : entry ∈ openInputs document) :
    ∃ requirement ∈ inputRequirements document,
      requirement.input.inputKey = entry.1.inputKey ∧ entry.2 ∈ requirement.targets := by
  obtain ⟨requirement, hfound, htarget⟩ := (collected_openInputs document).complete entry hentry
  have hkey := ((collected_openInputs document).origin _ _ hfound).1
  exact ⟨requirement, List.mem_map_of_mem (Fields.mem_of_get? hfound), hkey, htarget⟩

/-- The run inputs that a document asks for have keys of their own. -/
theorem hasOwnKey_of_inputRequirement {requirement : InputRequirement}
    (hrequirement : requirement ∈ inputRequirements document) :
    requirement.input.hasOwnKey = true := by
  obtain ⟨⟨key, _⟩, hpair, rfl⟩ := List.mem_map.mp hrequirement
  have hcollected := collected_openInputs document
  have hfound := (Fields.get?_eq_some_iff_mem hcollected.distinct).mpr hpair
  obtain ⟨entry, hentry, heq⟩ := List.mem_map.mp (hcollected.origin _ _ hfound).2
  obtain ⟨node, hnode, asked, hasked, hsetup, input, hinput, rfl⟩ := mem_openInputs_iff.mp hentry
  rcases setup_or_isSuppliable (List.mem_of_mem_filter hasked) with hset | hsuppliable
  · rw [hset] at hsetup
    cases hsetup
  · obtain ⟨-, _, _, other, -, hother, hown⟩ := asked.exists_of_isSuppliable hsuppliable
    rw [hinput] at hother
    cases hother
    rw [← heq]
    exact hown

/-! ## Filling a document -/

variable (requirements : List InputRequirement) (supply : String → Value)

/-- The slots of a node that the requirements name, each bound to its run input. -/
def inputSlots (id : String) : Bindings :=
  requirements.flatMap fun requirement =>
    (requirement.targets.filter fun target => target.nodeId = id).map fun target =>
      (target.targetKey, .runInput requirement.input.inputKey)

/-- The values supplied for the required run inputs. -/
def suppliedValues : Fields Value :=
  requirements.map fun requirement =>
    (requirement.input.inputKey, supply requirement.input.inputKey)

/-- The node with its slots bound, and with the values among its sample inputs if it is the node
with the id of `trigger`. -/
def fill (trigger : Option Node) (node : Node) : Node :=
  { node with
    data :=
      { node.data with
        bindings := Fields.setAll node.bindings (inputSlots requirements node.id)
        config :=
          if trigger.any fun trigger => trigger.id = node.id then
            Fields.set node.config "input"
              (.object
                (Fields.setAll (node.setting "input").fields (suppliedValues requirements supply)))
          else node.config } }

/-- A node of a document with what the document asks for filled in. -/
def filledNode (document : Document) (supply : String → Value) (node : Node) : Node :=
  fill (inputRequirements document) supply document.trigger? node

/-- The document with every run input that it asks for supplied by the first trigger and bound to
the slots that lack it. -/
def filled (document : Document) (supply : String → Value) : Document :=
  document.withNodes (document.nodes.map (filledNode document supply))

variable {requirements supply}

theorem mem_inputSlots_iff {id slot : String} {binding : Binding} :
    (slot, binding) ∈ inputSlots requirements id ↔
      ∃ requirement ∈ requirements, ⟨id, slot⟩ ∈ requirement.targets ∧
        binding = .runInput requirement.input.inputKey := by
  simp only [inputSlots, List.mem_flatMap, List.mem_map, List.mem_filter]
  refine exists_congr fun requirement => and_congr_right fun _ => ?_
  constructor
  · rintro ⟨target, ⟨htarget, hid⟩, heq⟩
    cases heq
    obtain rfl : target.nodeId = id := by simpa using hid
    exact ⟨htarget, rfl⟩
  · rintro ⟨htarget, rfl⟩
    exact ⟨⟨id, slot⟩, ⟨htarget, by simp⟩, rfl⟩

theorem setting_fill_of_trigger {trigger : Option Node} {node : Node}
    (htrigger : (trigger.any fun trigger => trigger.id = node.id) = true) :
    (fill requirements supply trigger node).setting "input" = .object
      (Fields.setAll (node.setting "input").fields (suppliedValues requirements supply)) := by
  simp [Node.setting, Node.config, fill, htrigger, Fields.get?_set]

theorem config_fill {trigger : Option Node} {node : Node}
    (htrigger : ¬(trigger.any fun trigger => trigger.id = node.id) = true) :
    (fill requirements supply trigger node).config = node.config := by
  simp [Node.config, fill, htrigger]

section Samples

variable (hsupply : ∀ requirement ∈ requirements,
  (supply requirement.input.inputKey).isMeaningful = true)

include hsupply

/-- Whatever is supplied under a name is meaningful. -/
theorem isMeaningful_of_supplied {name : String} {value : Value}
    (hfound : Fields.get? (suppliedValues requirements supply).reverse name = some value) :
    value.isMeaningful = true := by
  have hpair := List.mem_reverse.mp (Fields.mem_of_get? hfound)
  obtain ⟨requirement, hrequirement, heq⟩ := List.mem_map.mp hpair
  rw [← (Prod.mk.inj heq).2]
  exact hsupply requirement hrequirement

/-- A node holds every sample input after it was filled that it held before. -/
theorem resupplied_fill (trigger : Option Node) (node : Node) :
    Resupplied node (fill requirements supply trigger node) := by
  refine ⟨rfl, fun name hheld => ?_⟩
  unfold HoldsSample at hheld ⊢
  by_cases htrigger : (trigger.any fun trigger => trigger.id = node.id) = true
  · obtain ⟨value, hvalue, hmeaningful⟩ := hheld
    rw [setting_fill_of_trigger htrigger, Value.fields, Fields.get?_setAll]
    cases hsupplied : Fields.get? (suppliedValues requirements supply).reverse name with
    | some other => exact ⟨other, rfl, isMeaningful_of_supplied hsupply hsupplied⟩
    | none => exact ⟨value, hvalue, hmeaningful⟩
  · rwa [Node.setting, config_fill htrigger]

/-- The filled trigger holds every required run input. -/
theorem holdsSample_fill (trigger : Node) {requirement : InputRequirement}
    (hrequirement : requirement ∈ requirements) :
    HoldsSample (fill requirements supply (some trigger) trigger) requirement.input.inputKey := by
  have htrigger : ((some trigger).any fun other => other.id = trigger.id) = true := by simp
  rw [HoldsSample, setting_fill_of_trigger htrigger, Value.fields, Fields.get?_setAll]
  cases hsupplied :
      Fields.get? (suppliedValues requirements supply).reverse requirement.input.inputKey with
  | some value => exact ⟨value, rfl, isMeaningful_of_supplied hsupply hsupplied⟩
  | none =>
      -- the key of a requirement is among the supplied ones
      have habsent := Fields.get?_eq_none_iff.mp hsupplied
      simp [Fields.keys, suppliedValues] at habsent
      exact absurd rfl (habsent requirement hrequirement)

end Samples

/-! ## What the checks see in a filled document -/

theorem get?_nodeTable_filled (id : String) :
    Fields.get? (filled document supply).nodeTable id =
      (Fields.get? document.nodeTable id).map (filledNode document supply) :=
  Document.get?_nodeTable_withNodes_map (filledNode document supply) (fun _ => rfl) id

theorem trigger?_filled : (filled document supply).trigger? =
    document.trigger?.map (filledNode document supply) := by
  rw [Document.trigger?, filled, Document.withNodes, List.find?_map]
  rfl

theorem stages_filled : (filled document supply).stages = document.stages :=
  Document.stages_withNodes_map (filledNode document supply) (fun _ => rfl) (fun _ => rfl)

theorem hasIncoming_filled (node : Node) :
    (Context.of (filled document supply) document.stages node).hasIncoming =
      (Context.of document document.stages node).hasIncoming := by
  have hfeeds : feeds document.stages (filled document supply).nodeTable =
      feeds document.stages document.nodeTable := by
    funext edge
    rw [feeds, feeds, get?_nodeTable_filled, Option.any_map]
    rfl
  show ((document.edgesTo node.id).any (feeds document.stages (filled document supply).nodeTable)) =
    (document.edgesTo node.id).any (feeds document.stages document.nodeTable)
  rw [hfeeds]

section Filled

variable (hsupply : ∀ requirement ∈ inputRequirements document,
  (supply requirement.input.inputKey).isMeaningful = true)

include hsupply

theorem rel_resupplied_fill (node : Option Node) :
    Option.Rel Resupplied node (node.map (filledNode document supply)) := by
  cases node with
  | none => exact .none
  | some node => exact .some (resupplied_fill hsupply document.trigger? node)

/-- The checks of a filled node other than the trigger see at least what they saw before. -/
theorem growsTo_filled {node : Node}
    (htrigger : ¬(document.trigger?.any fun trigger => trigger.id = node.id) = true) :
    (Context.of document document.stages node).GrowsTo
      (Context.of (filled document supply) document.stages (filledNode document supply node)) where
  id_eq := rfl
  config_eq := config_fill htrigger
  stages_eq := rfl
  hasIncoming_eq := hasIncoming_filled node
  trigger := by
    show Option.Rel Resupplied document.trigger? (filled document supply).trigger?
    rw [trigger?_filled]
    exact rel_resupplied_fill hsupply document.trigger?
  nodes := fun id => by
    show Option.Rel Resupplied (Fields.get? document.nodeTable id)
      (Fields.get? (filled document supply).nodeTable id)
    rw [get?_nodeTable_filled]
    exact rel_resupplied_fill hsupply (Fields.get? document.nodeTable id)

/-- A binding to a required run input is one to something present. -/
theorem bindingOk_runInput (node : Node) {requirement : InputRequirement}
    (hrequirement : requirement ∈ inputRequirements document) :
    (Context.of (filled document supply) document.stages node).bindingOk
      (.runInput requirement.input.inputKey) = true := by
  have hown := hasOwnKey_of_inputRequirement hrequirement
  simp only [RuntimeInput.hasOwnKey, Bool.and_eq_true, decide_eq_true_eq] at hown
  obtain ⟨⟨hne, hfirst⟩, hlower⟩ := hown
  have hkey : (Binding.runInput requirement.input.inputKey).inputKey? =
      some requirement.input.inputKey := by
    simp only [Binding.inputKey?, Path.firstKey?, hfirst, if_neg hne]
  simp only [Context.bindingOk, hkey, Context.of, trigger?_filled]
  cases htrigger : document.trigger? with
  | none => rfl
  | some trigger =>
      simp only [Option.map_some, Option.isNone_some, Bool.false_or]
      refine isSome_sampleInput?_iff.mpr
        ⟨by rwa [hfirst, hlower], requirement.input.inputKey, ?_, ?_⟩
      · simp [sampleNames, hfirst, hlower]
      · rw [filledNode, htrigger]
        exact holdsSample_fill hsupply trigger hrequirement

/-- A slot of a filled node is filled if a requirement names it, or if it was filled before. -/
theorem slotOk_fill {node : Node}
    (htrigger : ¬(document.trigger?.any fun trigger => trigger.id = node.id) = true) {slot : String}
    (hslot : slot ∈ Fields.keys (inputSlots (inputRequirements document) node.id) ∨
      (Context.of document document.stages node).slotOk slot = true) :
    (Context.of (filled document supply) document.stages
      (filledNode document supply node)).slotOk slot = true := by
  show (Fields.get? (Fields.setAll node.bindings
    (inputSlots (inputRequirements document) node.id)) slot).any _ = true
  rw [Fields.get?_setAll]
  cases hnamed : Fields.get? (inputSlots (inputRequirements document) node.id).reverse slot with
  | some binding =>
      have hmem := List.mem_reverse.mp (Fields.mem_of_get? hnamed)
      obtain ⟨requirement, hrequirement, -, rfl⟩ := mem_inputSlots_iff.mp hmem
      rw [Option.some_or, Option.any_some]
      exact bindingOk_runInput hsupply _ hrequirement
  | none =>
      rcases hslot with hmem | hok
      · have habsent := Fields.get?_eq_none_iff.mp hnamed
        rw [Fields.keys, List.map_reverse, List.mem_reverse] at habsent
        exact absurd hmem habsent
      · obtain ⟨binding, hheld, hpresent⟩ := (Option.any_eq_true ..).mp hok
        have hheld' : Fields.get? node.bindings slot = some binding := hheld
        rw [Option.none_or, hheld', Option.any_some]
        exact (growsTo_filled hsupply htrigger).bindingOk hpresent

/-- What a run input can meet is met in the filled document if it was missing before. -/
theorem satisfies_filled {node : Node} (hnode : node ∈ document.nodes)
    (htrigger : ¬(document.trigger?.any fun trigger => trigger.id = node.id) = true)
    {requirement : Requirement} (hmissing : requirement ∈ missing document document.stages node)
    (hsetup : requirement.setup = false) (hsuppliable : requirement.isSuppliable = true) :
    (Context.of (filled document supply) document.stages
      (filledNode document supply node)).satisfies requirement = true := by
  obtain ⟨hcheck, slot, rest, input, hkeys, hinput, -⟩ :=
    requirement.exists_of_isSuppliable hsuppliable
  have hopen : (input, ⟨node.id, slot⟩) ∈ openInputs document := by
    apply mem_openInputs_iff.mpr
    refine ⟨node, hnode, requirement, hmissing, hsetup, input, hinput, ?_⟩
    rw [hkeys]
    rfl
  obtain ⟨asked, hasked, -, htarget⟩ := exists_inputRequirement hopen
  have hnamed := mem_inputSlots_iff.mpr ⟨asked, hasked, htarget, rfl⟩
  have hslot := slotOk_fill hsupply htrigger (Or.inl (List.mem_map_of_mem hnamed))
  simp [Context.satisfies, hcheck, hkeys, hslot]

/-- In a filled document nothing is missing on a node that was not missing before. -/
theorem missing_filled_sublist (hids : document.nodeIds.Nodup) {node : Node}
    (hnode : node ∈ document.nodes) :
    (missing (filled document supply) document.stages (filledNode document supply node)).Sublist
      (missing document document.stages node) := by
  have hsame : requirementsFor (filledNode document supply node) = requirementsFor node := rfl
  rw [missing, hsame]
  by_cases htrigger : (document.trigger?.any fun trigger => trigger.id = node.id) = true
  · rw [requirementsFor_of_trigger hids hnode htrigger]
    exact List.nil_sublist _
  · apply List.monotone_filter_right
    intro requirement hmissing
    simp only [Bool.not_eq_true', Bool.eq_false_iff] at hmissing ⊢
    intro hmet
    apply hmissing
    exact (growsTo_filled hsupply htrigger).satisfies
      (fun slot hok => slotOk_fill hsupply htrigger (Or.inr hok)) hmet

/-- In a filled document only setup is missing. -/
theorem setup_of_mem_missing_filled (hids : document.nodeIds.Nodup) {node : Node}
    (hnode : node ∈ document.nodes) {requirement : Requirement}
    (hmissing : requirement ∈
      missing (filled document supply) document.stages (filledNode document supply node)) :
    requirement.setup = true := by
  have hbefore := (missing_filled_sublist hsupply hids hnode).subset hmissing
  have hrequirement := List.mem_of_mem_filter hbefore
  by_cases htrigger : (document.trigger?.any fun trigger => trigger.id = node.id) = true
  · rw [requirementsFor_of_trigger hids hnode htrigger] at hrequirement
    cases hrequirement
  · rcases setup_or_isSuppliable hrequirement with hsetup | hsuppliable
    · exact hsetup
    · by_contra hsetup
      have hmet := satisfies_filled hsupply hnode htrigger hbefore (by simpa using hsetup)
        hsuppliable
      have hunmet := (List.mem_filter.mp hmissing).2
      rw [hmet] at hunmet
      cases hunmet

end Filled

/-- The run inputs that a document asks for are enough: with each of them supplied, nothing is
missing that was not missing before, only setup is, and no further run input is asked for. -/
theorem inputRequirements_suffice {document : Document} (hids : document.nodeIds.Nodup)
    {supply : String → Value}
    (hsupply : ∀ requirement ∈ inputRequirements document,
      (supply requirement.input.inputKey).isMeaningful = true) :
    (∀ node ∈ document.nodes,
      let after :=
        missing (filled document supply) (filled document supply).stages
          (filledNode document supply node)
      after.Sublist (missing document document.stages node) ∧
        ∀ requirement ∈ after, requirement.setup = true) ∧
    inputRequirements (filled document supply) = [] := by
  rw [stages_filled]
  refine ⟨fun node hnode => ⟨missing_filled_sublist hsupply hids hnode,
    fun requirement => setup_of_mem_missing_filled hsupply hids hnode⟩, ?_⟩
  have hopen : openInputs (filled document supply) = [] := by
    apply List.eq_nil_iff_forall_not_mem.mpr
    intro entry hentry
    obtain ⟨node, hnode, requirement, hrequirement, hsetup, -⟩ := mem_openInputs_iff.mp hentry
    obtain ⟨original, horiginal, rfl⟩ := List.mem_map.mp hnode
    rw [stages_filled] at hrequirement
    rw [setup_of_mem_missing_filled hsupply hids horiginal hrequirement] at hsetup
    cases hsetup
  rw [inputRequirements, hopen]
  rfl

/-- A trigger without sample inputs, and a step that reads a ruleset. -/
def rulesetDocument : Document :=
  { nodes :=
      [{ id := "trigger_1", type := "trigger", data := { mode := "manual" } },
       { id := "rules", type := "utilities"
         data := { mode := "function", ref := some { key := "ai.parse_ruleset" } } }] }

/-- A ruleset is asked for, and one document is enough. -/
theorem inputRequirements_suffice_ruleset :
    (inputRequirements rulesetDocument).map (fun requirement => requirement.input.inputKey) =
        ["ruleset_doc_id"] ∧
      inputRequirements (filled rulesetDocument fun _ => .text "doc-1") = [] := by
  refine ⟨by decide +kernel, (inputRequirements_suffice ?_ fun _ _ => ?_).2⟩
  · decide
  · decide +kernel

end Readiness

end FlowGraph
