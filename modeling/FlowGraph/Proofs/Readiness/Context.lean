/-
# Checks see more when more is there

The checks of a node look at its configuration, its bindings, the stages and the sample inputs of
triggers, and none of them asks for something to be absent. So a requirement that is met stays met
when sample inputs are added and slots are filled with what is present.
-/

import FlowGraph.Proofs.Fields
import FlowGraph.Readiness.Check

namespace FlowGraph.Readiness

open Text

/-! ## Sample inputs -/

/-- The names under which a sample input is looked for. -/
def sampleNames (key : String) : List String :=
  lower (Path.firstKey key) :: (Fields.get? inputAliases (lower (Path.firstKey key))).getD []

/-- The node holds a sample input of this name. -/
def HoldsSample (node : Node) (name : String) : Prop :=
  ∃ value, Fields.get? (node.setting "input").fields name = some value ∧ value.isMeaningful = true

theorem isSome_sampleInput?_iff {trigger : Node} {key : String} :
    (sampleInput? (some trigger) key).isSome = true ↔
      lower (Path.firstKey key) ≠ "" ∧ ∃ name ∈ sampleNames key, HoldsSample trigger name := by
  unfold sampleInput? sampleNames HoldsSample
  by_cases hkey : lower (Path.firstKey key) = ""
  · simp [hkey]
  · rw [Option.bind_some, if_neg hkey, and_iff_right hkey]
    cases hinput : trigger.setting "input" with
    | object payload =>
        rw [List.findSome?_isSome_iff]
        refine exists_congr fun name => and_congr_right fun _ => ?_
        cases hheld : Fields.get? payload name with
        | none => simp [Value.fields, hheld]
        | some value =>
            by_cases hmeaningful : value.isMeaningful = true <;>
              simp [Value.fields, hheld, hmeaningful]
    | _ => simp [Value.fields]

/-- The second node is source-only just if the first is, and holds at least its sample inputs. -/
structure Resupplied (before after : Node) : Prop where
  sourceOnly_eq : after.isSourceOnly = before.isSourceOnly
  samples : ∀ name, HoldsSample before name → HoldsSample after name

theorem Resupplied.isSome_sampleInput? {before after : Node} (hresupplied : Resupplied before after)
    {key : String} (hsample : (sampleInput? (some before) key).isSome = true) :
    (sampleInput? (some after) key).isSome = true := by
  obtain ⟨hkey, name, hname, hheld⟩ := isSome_sampleInput?_iff.mp hsample
  exact isSome_sampleInput?_iff.mpr ⟨hkey, name, hname, hresupplied.samples name hheld⟩

/-! ## What a check can see -/

namespace Context

/-- The second context is one of the same node among the same nodes, with at least the sample
inputs of the first. Of the bindings of the node it says nothing. -/
structure GrowsTo (before after : Context) : Prop where
  id_eq : after.node.id = before.node.id
  config_eq : after.node.config = before.node.config
  stages_eq : after.stages = before.stages
  hasIncoming_eq : after.hasIncoming = before.hasIncoming
  trigger : Option.Rel Resupplied before.trigger after.trigger
  nodes : ∀ id, Option.Rel Resupplied (Fields.get? before.nodes id) (Fields.get? after.nodes id)

variable {before after : Context}

/-- A binding to something present is one to something present. -/
theorem GrowsTo.bindingOk (hgrows : GrowsTo before after) {binding : Binding}
    (hok : before.bindingOk binding = true) : after.bindingOk binding = true := by
  cases binding with
  | runInput path =>
      simp only [Context.bindingOk] at hok ⊢
      cases hkey : (Binding.runInput path).inputKey? with
      | none => rfl
      | some key =>
          rw [hkey] at hok
          have htrigger := hgrows.trigger
          generalize before.trigger = first at htrigger hok
          generalize after.trigger = second at htrigger ⊢
          cases htrigger with
          | none => rfl
          | some hresupplied =>
              simp only [Option.isNone_some, Bool.false_or] at hok ⊢
              exact hresupplied.isSome_sampleInput? hok
  | stepOutput stepId path =>
      simp only [Context.bindingOk, hgrows.stages_eq, hgrows.id_eq] at hok ⊢
      have hsource := hgrows.nodes stepId
      generalize Fields.get? before.nodes stepId = first at hsource hok
      generalize Fields.get? after.nodes stepId = second at hsource ⊢
      cases hsource with
      | none => exact hok
      | some hresupplied =>
          dsimp only at hok ⊢
          rw [hresupplied.sourceOnly_eq]
          split at hok
          · rename_i hsource
            rw [if_pos hsource, Bool.and_eq_true]
            rw [Bool.and_eq_true] at hok
            exact ⟨hok.1, hresupplied.isSome_sampleInput? hok.2⟩
          · rename_i hsource
            rw [if_neg hsource]
            exact hok
  | constant value => exact hok

theorem GrowsTo.configOk (hgrows : GrowsTo before after) {key : String}
    (hok : before.configOk key = true) : after.configOk key = true := by
  unfold Context.configOk at hok ⊢
  rw [hgrows.config_eq]
  cases hheld : Fields.get? before.node.config key with
  | none =>
      rw [hheld] at hok
      cases hok
  | some value =>
      rw [hheld] at hok
      cases value with
      | text s =>
          simp only [Option.any_some, settingOk, Bool.and_eq_true] at hok ⊢
          exact ⟨hok.1, hgrows.bindingOk hok.2⟩
      | _ => simpa only [Option.any_some, settingOk] using hok

theorem GrowsTo.setting_eq (hgrows : GrowsTo before after) (key : String) :
    after.node.setting key = before.node.setting key := by
  rw [Node.setting, Node.setting, hgrows.config_eq]

theorem GrowsTo.anyItem_eq (hgrows : GrowsTo before after) (key : String)
    (test : Value → Bool) : after.anyItem key test = before.anyItem key test := by
  rw [anyItem, anyItem, hgrows.setting_eq]

theorem GrowsTo.settingText_eq (hgrows : GrowsTo before after) (key : String) :
    after.settingText key = before.settingText key := by
  rw [settingText, settingText, hgrows.setting_eq]

/-- A test that is passed stays passed if the slots that were filled still are. -/
theorem GrowsTo.passes (hgrows : GrowsTo before after)
    (hslots : ∀ slot, before.slotOk slot = true → after.slotOk slot = true) {check : Check}
    (hpassed : before.passes check = true) : after.passes check = true := by
  cases check with
  | conditionSource =>
      rw [Context.passes, hasCondition] at hpassed ⊢
      rw [hgrows.anyItem_eq, hgrows.settingText_eq, hgrows.hasIncoming_eq]
      simp only [Bool.or_eq_true] at hpassed ⊢
      exact hpassed.imp_left (Or.imp (Or.imp_right (hslots "value")) hgrows.configOk)
  | delayTiming =>
      have hnumber (key : String) : after.holdsNumber key = before.holdsNumber key := by
        rw [holdsNumber, holdsNumber, hgrows.setting_eq]
      rw [Context.passes, hasTiming] at hpassed ⊢
      simp only [hnumber, hgrows.settingText_eq, Bool.or_eq_true, List.any_eq_true] at hpassed ⊢
      refine hpassed.imp ?_ ?_
      · exact fun ⟨key, hkey, hok⟩ => ⟨key, hkey, hok.imp_right (hslots key)⟩
      · exact fun ⟨key, hkey, hok⟩ => ⟨key, hkey, hok.imp_right (hslots key)⟩
  | routes =>
      rw [Context.passes, hasRoute] at hpassed ⊢
      rwa [hgrows.anyItem_eq, hgrows.settingText_eq]
  | mergeSources =>
      rw [Context.passes, hasMergeSource] at hpassed ⊢
      rwa [hgrows.hasIncoming_eq, hgrows.anyItem_eq]
  | assignee =>
      rw [Context.passes, hasAssignee] at hpassed ⊢
      rwa [hgrows.setting_eq]
  | checklistItems =>
      rw [Context.passes, hasChecklistItem] at hpassed ⊢
      rwa [hgrows.anyItem_eq]
  | unknown name => cases hpassed

/-- A requirement that is met stays met if the slots that were filled still are. -/
theorem GrowsTo.satisfies (hgrows : GrowsTo before after)
    (hslots : ∀ slot, before.slotOk slot = true → after.slotOk slot = true)
    {requirement : Requirement} (hmet : before.satisfies requirement = true) :
    after.satisfies requirement = true := by
  unfold Context.satisfies at hmet ⊢
  cases hcheck : requirement.check with
  | some check =>
      rw [hcheck] at hmet
      exact hgrows.passes hslots hmet
  | none =>
      rw [hcheck] at hmet
      simp only [Bool.or_eq_true, List.any_eq_true, hgrows.hasIncoming_eq] at hmet ⊢
      refine hmet.imp_left (Or.imp ?_ ?_)
      · exact fun ⟨slot, hslot, hok⟩ => ⟨slot, hslot, hslots slot hok⟩
      · exact fun ⟨key, hkey, hok⟩ => ⟨key, hkey, hgrows.configOk hok⟩

end Context

end FlowGraph.Readiness
