/-
# Bindings fitted to a contract

Fitting reads the bindings it is given, chooses slots, and turns references to steps out of reach
into run inputs. Which slots come out is a matter of the contract and of the slots that are given,
and what a slot holds is a matter of the last binding that is given for it; neither depends on the
other. Bindings that were fitted are left alone by fitting them again, also where they are read once
more on the way, because their slots are trimmed and distinct already.
-/

import FlowGraph.Mapping.Contract
import FlowGraph.Proofs.Binding

namespace FlowGraph

open Text

namespace Mapping

open Binding

/-! ## What fitting does to a binding and to the slots -/

/-- What becomes of a binding where only some steps may be read: a reference to any other step
becomes the run input over the same path, and all else is kept. -/
inductive KeptAs (readable : String → Prop) : Binding → Binding → Prop
  | same {binding : Binding} (hreadable : ∀ stepId ∈ binding.stepId?, readable stepId) :
      KeptAs readable binding binding
  | downgraded {stepId : String} (path : String) (hforeign : ¬ readable stepId) :
      KeptAs readable (.stepOutput stepId path) (.runInput path)

variable {contract : Contract} {allowed : List String} {bindings : Bindings} {binding : Binding}

theorem keptAs_downgrade (allowed : List String) (binding : Binding) :
    KeptAs (· ∈ allowed) binding (downgrade allowed binding) := by
  cases binding with
  | runInput path => exact KeptAs.same (by simp [stepId?])
  | constant value => exact KeptAs.same (by simp [stepId?])
  | stepOutput stepId path =>
      by_cases hallowed : stepId ∈ allowed
      · rw [downgrade, if_pos (by simpa using hallowed)]
        exact KeptAs.same (by simpa [stepId?] using hallowed)
      · rw [downgrade, if_neg (by simpa using hallowed)]
        exact KeptAs.downgraded path hallowed

/-- What is left of a binding reads no other step. -/
theorem KeptAs.readable {readable : String → Prop} {before after : Binding}
    (hkept : KeptAs readable before after) : ∀ stepId ∈ after.stepId?, readable stepId := by
  cases hkept with
  | same hreadable => exact hreadable
  | downgraded path hforeign => simp [stepId?]

theorem downgrade_eq_self (hallowed : ∀ stepId ∈ binding.stepId?, stepId ∈ allowed) :
    downgrade allowed binding = binding := by
  cases binding with
  | runInput path => rfl
  | constant value => rfl
  | stepOutput stepId path =>
      have hmem : stepId ∈ allowed := by simpa [stepId?] using hallowed
      exact if_pos (by simpa using hmem)

theorem downgrade_downgrade (allowed : List String) (binding : Binding) :
    downgrade allowed (downgrade allowed binding) = downgrade allowed binding :=
  downgrade_eq_self (keptAs_downgrade allowed binding).readable

/-- As many of the items as the contract admits. -/
def Contract.limit {α : Type} (contract : Contract) (items : List α) : List α :=
  match contract.maxMappings with
  | some limit => items.take limit.toNat
  | none => items

theorem Contract.limit_limit {α : Type} (contract : Contract) (items : List α) :
    contract.limit (contract.limit items) = contract.limit items := by
  unfold limit
  cases contract.maxMappings with
  | none => rfl
  | some limit => simp only [List.take_take, Nat.min_self]

theorem Contract.limit_map {α β : Type} (contract : Contract) (f : α → β) (items : List α) :
    contract.limit (items.map f) = (contract.limit items).map f := by
  unfold limit
  cases contract.maxMappings with
  | none => rfl
  | some limit => simp

theorem Contract.limit_sublist {α : Type} (contract : Contract) (items : List α) :
    (contract.limit items).Sublist items := by
  unfold limit
  cases contract.maxMappings with
  | none => exact List.Sublist.refl _
  | some limit => exact List.take_sublist _ _

/-- An enforced contract keeps exactly the slots that it expects. -/
theorem reconcile_of_enforced (henforced : contract.enforced = true) (allowed : List String)
    (bindings : Bindings) :
    reconcile contract allowed bindings =
      (Document.distinct contract.expectedTargets).map fun slot =>
        (slot, downgrade allowed ((Fields.get? bindings slot).getD (.runInput ""))) := by
  rw [reconcile, Contract.select, if_pos henforced, Fields.ofPairs_map, Fields.mapValues,
    List.map_map]
  rfl

/-- Any other contract keeps the first slots, as many as it admits. -/
theorem reconcile_of_limited (hlimited : contract.enforced = false) (allowed : List String)
    (bindings : Bindings) :
    reconcile contract allowed bindings =
      Fields.mapValues (downgrade allowed) (contract.limit bindings) := by
  rw [reconcile, Contract.select, hlimited]
  rfl

theorem reconcile_reconcile (contract : Contract) (allowed : List String) (bindings : Bindings) :
    reconcile contract allowed (reconcile contract allowed bindings) =
      reconcile contract allowed bindings := by
  cases hcase : contract.enforced with
  | true =>
      rw [reconcile_of_enforced hcase allowed bindings, reconcile_of_enforced hcase]
      apply List.map_congr_left
      intro slot hslot
      rw [Fields.get?_map_pair, if_pos hslot, Option.getD_some, downgrade_downgrade]
  | false =>
      rw [reconcile_of_limited hcase allowed bindings, reconcile_of_limited hcase, Fields.mapValues,
        Fields.mapValues, contract.limit_map, contract.limit_limit, List.map_map]
      apply List.map_congr_left
      intro pair _
      exact Prod.ext rfl (downgrade_downgrade allowed pair.2)

/-! ## What comes out -/

/-- What fitting has to come to: the slots that the contract asks for or admits, in each of them the
last binding that is given for it, or in a slot that is only asked for the whole run input, no
reference to a step that is not allowed, and nothing left to do for a second fitting. -/
structure Reconciled (contract : Contract) (allowed : List String) (given : Fields Given)
    (result : Bindings) : Prop where
  asked : contract.enforced = true →
    Fields.keys result = Document.distinct contract.expectedTargets
  admitted : contract.enforced = false →
    Fields.keys result = contract.limit (givenSlots given)
  bound : ∀ slot binding, (slot, binding) ∈ result →
    (∃ before, givenFor given slot = some before ∧ KeptAs (· ∈ allowed) before binding) ∨
      contract.enforced = true ∧ givenFor given slot = none ∧ binding = .runInput ""
  within : ∀ slot stepId path, (slot, Binding.stepOutput stepId path) ∈ result → stepId ∈ allowed
  stable : reconcile contract allowed (readGiven (Fields.mapValues .read result)) = result

variable {given : Fields Given}

theorem keys_reconcile_of_enforced (henforced : contract.enforced = true) (allowed : List String)
    (bindings : Bindings) :
    Fields.keys (reconcile contract allowed bindings) =
      Document.distinct contract.expectedTargets := by
  rw [reconcile_of_enforced henforced, Fields.keys, List.map_map]
  exact List.map_id _

theorem keys_reconcile_of_limited (hlimited : contract.enforced = false) (allowed : List String)
    (bindings : Bindings) :
    Fields.keys (reconcile contract allowed bindings) = contract.limit (Fields.keys bindings) := by
  rw [reconcile_of_limited hlimited, Fields.keys_mapValues, Fields.keys, Fields.keys,
    contract.limit_map]

theorem keyed_reconcile
    (hexpected : ∀ slot ∈ contract.expectedTargets, trim slot = slot ∧ slot ≠ "")
    (allowed : List String) (hkeyed : Keyed bindings) :
    Keyed (reconcile contract allowed bindings) := by
  cases hcase : contract.enforced with
  | true =>
      have hkeys := keys_reconcile_of_enforced hcase allowed bindings
      constructor
      · rw [hkeys]
        exact Document.nodup_distinct _
      · intro slot hslot
        rw [hkeys, Document.mem_distinct_iff] at hslot
        exact (hexpected slot hslot).1
      · intro slot hslot
        rw [hkeys, Document.mem_distinct_iff] at hslot
        exact (hexpected slot hslot).2
  | false =>
      apply hkeyed.of_sublist
      rw [keys_reconcile_of_limited hcase]
      exact contract.limit_sublist _

/-- What a slot of the result holds comes from the slot as it was, or from nowhere. -/
theorem exists_of_mem_reconcile (hkeys : (Fields.keys bindings).Nodup) {slot : String}
    (hmem : (slot, binding) ∈ reconcile contract allowed bindings) :
    (∃ before, Fields.get? bindings slot = some before ∧ binding = downgrade allowed before) ∨
      contract.enforced = true ∧ Fields.get? bindings slot = none ∧ binding = .runInput "" := by
  cases hcase : contract.enforced with
  | true =>
      rw [reconcile_of_enforced hcase] at hmem
      obtain ⟨other, -, heq⟩ := List.mem_map.mp hmem
      obtain ⟨rfl, rfl⟩ := Prod.mk.inj heq
      cases hheld : Fields.get? bindings other with
      | none => exact Or.inr ⟨rfl, rfl, rfl⟩
      | some before => exact Or.inl ⟨before, rfl, rfl⟩
  | false =>
      rw [reconcile_of_limited hcase] at hmem
      obtain ⟨⟨other, before⟩, hpair, heq⟩ := List.mem_map.mp hmem
      obtain ⟨rfl, rfl⟩ := Prod.mk.inj heq
      have hheld := (contract.limit_sublist bindings).subset hpair
      exact Or.inl ⟨before, (Fields.get?_eq_some_iff_mem hkeys).mpr hheld, rfl⟩

/-- Whatever bindings are given, in whichever form, fitting them to a contract comes to what it has
to come to, provided that the contract expects trimmed slots that are not blank. -/
theorem reconcile_fits_contract
    (hexpected : ∀ slot ∈ contract.expectedTargets, trim slot = slot ∧ slot ≠ "")
    (allowed : List String) (given : Fields Given) :
    Reconciled contract allowed given (reconcile contract allowed (readGiven given)) := by
  have hgiven := keyed_readGiven given
  have hkeyed := keyed_reconcile hexpected allowed hgiven
  constructor
  · intro henforced
    exact keys_reconcile_of_enforced henforced allowed _
  · intro hlimited
    rw [keys_reconcile_of_limited hlimited, keys_readGiven]
  · intro slot binding hmem
    have hne := hkeyed.filled slot (List.mem_map_of_mem hmem)
    rw [← get?_readGiven hne]
    refine (exists_of_mem_reconcile hgiven.distinct hmem).imp_left ?_
    rintro ⟨before, hbefore, rfl⟩
    exact ⟨before, hbefore, keptAs_downgrade allowed before⟩
  · intro slot stepId path hmem
    obtain ⟨pair, -, heq⟩ := List.mem_map.mp hmem
    exact (keptAs_downgrade allowed pair.2).readable stepId (by simp [(Prod.mk.inj heq).2, stepId?])
  · rw [hkeyed.readGiven_read, reconcile_reconcile]

theorem expectedTargets_ofNode (node : Node) :
    (Contract.ofNode (some node)).expectedTargets =
      (node.modeRecord?.map Mode.expectedTargets).getD [] := by
  simp only [Contract.ofNode]
  split
  · next hnone => exact hnone.symm
  · rfl

/-- The contract of every node expects trimmed slots that are not blank. -/
theorem trim_of_mem_expectedTargets (node : Option Node) {slot : String}
    (hslot : slot ∈ (Contract.ofNode node).expectedTargets) : trim slot = slot ∧ slot ≠ "" := by
  cases node with
  | none => cases hslot
  | some node =>
      rw [expectedTargets_ofNode] at hslot
      cases hmode : node.modeRecord? with
      | none =>
          rw [hmode] at hslot
          cases hslot
      | some mode =>
          rw [hmode, Option.map_some, Option.getD_some, Mode.expectedTargets,
            Document.mem_distinct_iff, List.mem_filter] at hslot
          obtain ⟨hmem, hne⟩ := hslot
          obtain ⟨raw, -, rfl⟩ := List.mem_map.mp hmem
          exact ⟨trim_trim raw, by simpa using hne⟩

/-- A reading step that is given a later step for its text, under a slot with blanks around it. -/
theorem reconcile_fits_contract_reading :
    let contract := Contract.ofNode
      (some { id := "read", type := "ai", data := { mode := "extract" } })
    let given : Fields Given :=
      [(" text ", .written (.text "$.steps.late.output.text")), ("note", .written (.int 3)),
       ("doc_ids", .read (.stepOutput "list" "doc_ids"))]
    let result := reconcile contract ["list"] (readGiven given)
    (∀ slot ∈ contract.expectedTargets, trim slot = slot ∧ slot ≠ "") ∧
      Reconciled contract ["list"] given result ∧
      result.map (fun pair => (pair.1, pair.2.stepId?, pair.2.inputKey?)) =
        [("doc_ids", some "list", none), ("text", none, some "text")] := by
  intro contract given result
  have hexpected : ∀ slot ∈ contract.expectedTargets, trim slot = slot ∧ slot ≠ "" :=
    fun slot hslot => trim_of_mem_expectedTargets _ hslot
  exact ⟨hexpected, reconcile_fits_contract hexpected ["list"] given, by decide +kernel⟩

end Mapping

end FlowGraph
