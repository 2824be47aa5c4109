/-
# Bindings by slot

Bindings that were read have trimmed slots that are distinct and not blank. Reading them once more
leaves them as they are, and writing the wire form keeps every slot: it leaves out the references to
no step and nothing else.
A reference to a step is written with the step id as it stands, so it determines the step.
-/

import FlowGraph.Binding.Reading
import FlowGraph.Proofs.Fields
import FlowGraph.Proofs.Trim

namespace FlowGraph

open Text

namespace Binding

/-- The slots are trimmed, not blank, and distinct, as reading leaves them. -/
structure Keyed (bindings : Bindings) : Prop where
  distinct : (Fields.keys bindings).Nodup
  trimmed : ∀ slot ∈ Fields.keys bindings, trim slot = slot
  filled : ∀ slot ∈ Fields.keys bindings, slot ≠ ""

variable {bindings : Bindings}

theorem keyed_nil : Keyed [] := ⟨List.nodup_nil, by simp [Fields.keys], by simp [Fields.keys]⟩

theorem Keyed.of_sublist {fewer : Bindings} (hkeyed : Keyed bindings)
    (hkeys : (Fields.keys fewer).Sublist (Fields.keys bindings)) : Keyed fewer where
  distinct := hkeyed.distinct.sublist hkeys
  trimmed := fun slot hslot => hkeyed.trimmed slot (hkeys.subset hslot)
  filled := fun slot hslot => hkeyed.filled slot (hkeys.subset hslot)

theorem Keyed.set (hkeyed : Keyed bindings) {slot : String} (htrim : trim slot = slot)
    (hne : slot ≠ "") (binding : Binding) : Keyed (Fields.set bindings slot binding) := by
  have hmem : ∀ other ∈ Fields.keys (Fields.set bindings slot binding),
      other = slot ∨ other ∈ Fields.keys bindings := by
    intro other hother
    rw [Fields.keys_set] at hother
    split at hother
    · exact Or.inr hother
    · simpa [or_comm] using hother
  refine ⟨Fields.nodup_keys_set hkeyed.distinct _ _, fun other hother => ?_, fun other hother => ?_⟩
  · rcases hmem other hother with rfl | hold
    · exact htrim
    · exact hkeyed.trimmed other hold
  · rcases hmem other hother with rfl | hold
    · exact hne
    · exact hkeyed.filled other hold

/-! ## Bindings as they are handed over -/

/-- A binding as it is handed over: in one of its written forms, or read already. -/
inductive Given where
  | written (value : Value)
  | read (binding : Binding)

/-- What a binding that is handed over reads as. -/
def Given.binding : Given → Binding
  | written value => parse value
  | read binding => binding

/-- Reads pairs of a slot and a binding in either form. Slots are trimmed and blank ones are
skipped. -/
def readGiven (given : Fields Given) : Bindings :=
  Fields.ofPairs <| given.filterMap fun (slot, held) =>
    if trim slot = "" then none else some (trim slot, held.binding)

/-- The slots that are given, trimmed and each in its first place, blank ones apart. -/
def givenSlots (given : Fields Given) : List String :=
  Document.distinct (((Fields.keys given).map trim).filter fun slot => slot ≠ "")

/-- What is given for a slot: of several bindings under one trimmed slot the last. -/
def givenFor (given : Fields Given) (slot : String) : Option Binding :=
  (given.reverse.find? fun pair => trim pair.1 = slot).map fun pair => pair.2.binding

variable {given : Fields Given} {slot : String}

theorem keys_readGiven (given : Fields Given) :
    Fields.keys (readGiven given) = givenSlots given := by
  rw [readGiven, Fields.keys_ofPairs, givenSlots]
  congr 1
  induction given with
  | nil => rfl
  | cons pair rest ih =>
      by_cases hblank : trim pair.1 = ""
      · simpa [Fields.keys, hblank] using ih
      · simpa [Fields.keys, hblank] using ih

theorem keyed_readGiven (given : Fields Given) : Keyed (readGiven given) := by
  have hslot : ∀ slot ∈ Fields.keys (readGiven given), ∃ raw, trim raw = slot ∧ slot ≠ "" := by
    intro slot hmem
    rw [keys_readGiven, givenSlots, Document.mem_distinct_iff, List.mem_filter] at hmem
    obtain ⟨hmem, hne⟩ := hmem
    obtain ⟨raw, -, hraw⟩ := List.mem_map.mp hmem
    exact ⟨raw, hraw, by simpa using hne⟩
  refine ⟨Fields.nodup_keys_ofPairs _, fun slot hmem => ?_, fun slot hmem => ?_⟩
  · obtain ⟨raw, rfl, -⟩ := hslot slot hmem
    exact trim_trim raw
  · exact (hslot slot hmem).choose_spec.2

theorem get?_readGiven (hne : slot ≠ "") :
    Fields.get? (readGiven given) slot = givenFor given slot := by
  have hread (pairs : Fields Given) :
      Fields.get? (pairs.filterMap fun pair =>
          if trim pair.1 = "" then none else some (trim pair.1, pair.2.binding)) slot =
        (pairs.find? fun pair => trim pair.1 = slot).map fun pair => pair.2.binding := by
    induction pairs with
    | nil => rfl
    | cons pair rest ih =>
        by_cases hslot : trim pair.1 = slot
        · simp [hslot, hne, Fields.get?_cons]
        · by_cases hblank : trim pair.1 = ""
          · simpa [hblank, hne.symm] using ih
          · simpa [hblank, hslot, Fields.get?_cons] using ih
  rw [readGiven, Fields.get?_ofPairs, givenFor, ← hread, List.filterMap_reverse]

/-- Bindings that were read before come back as they are. -/
theorem Keyed.readGiven_read (hkeyed : Keyed bindings) :
    readGiven (Fields.mapValues .read bindings) = bindings := by
  have hread : ((Fields.mapValues Given.read bindings).filterMap fun pair =>
      if trim pair.1 = "" then none else some (trim pair.1, pair.2.binding)) = bindings := by
    rw [Fields.mapValues, List.filterMap_map]
    conv_rhs => rw [← List.filterMap_some (l := bindings)]
    apply List.filterMap_congr
    intro pair hpair
    have hmem := List.mem_map_of_mem (f := Prod.fst) hpair
    simp [hkeyed.trimmed pair.1 hmem, hkeyed.filled pair.1 hmem, Given.binding]
  exact (congrArg Fields.ofPairs hread).trans (Fields.ofPairs_eq_self hkeyed.distinct)

theorem readGiven_written (pairs : Fields Value) :
    readGiven (Fields.mapValues .written pairs) = parsePairs pairs := by
  rw [readGiven, parsePairs, Fields.mapValues, List.filterMap_map]
  rfl

theorem keyed_parsePairs (pairs : Fields Value) : Keyed (parsePairs pairs) :=
  readGiven_written pairs ▸ keyed_readGiven _

/-! ## The wire form -/

/-- The bindings that have a wire form: all but references to no step. -/
def written (bindings : Bindings) : Bindings :=
  bindings.filter fun pair => pair.2.stepId? ≠ some ""

theorem Keyed.written (hkeyed : Keyed bindings) : Keyed (written bindings) :=
  hkeyed.of_sublist (List.filter_sublist.map Prod.fst)

/-- The wire form keeps every slot and writes what is bound there. -/
theorem toWireAll_eq (hkeyed : Keyed bindings) :
    toWireAll bindings = Fields.mapValues toWire (written bindings) := by
  have hwritten : (bindings.filterMap fun pair =>
      if trim pair.1 = "" then none
      else if pair.2.stepId? = some "" then none
      else some (trim pair.1, pair.2.toWire)) = Fields.mapValues toWire (written bindings) := by
    rw [Fields.mapValues, Binding.written, ← List.filterMap_eq_map, List.filterMap_filter]
    apply List.filterMap_congr
    intro pair hpair
    have hmem := List.mem_map_of_mem (f := Prod.fst) hpair
    have htrimmed := hkeyed.trimmed pair.1 hmem
    have hfilled := hkeyed.filled pair.1 hmem
    by_cases hstep : pair.2.stepId? = some ""
    · simp [hstep]
    · simp [hstep, htrimmed, hfilled]
  refine (congrArg Fields.ofPairs hwritten).trans (Fields.ofPairs_eq_self ?_)
  simpa using hkeyed.written.distinct

/-- The wire form holds under every slot what is bound there, except for references to no step. -/
theorem get?_toWireAll_iff (hkeyed : Keyed bindings) {slot : String} {value : Value} :
    Fields.get? (toWireAll bindings) slot = some value ↔
      ∃ binding, (slot, binding) ∈ bindings ∧ binding.stepId? ≠ some "" ∧
        binding.toWire = value := by
  have hkeys : (Fields.keys (Fields.mapValues toWire (written bindings))).Nodup := by
    simpa using hkeyed.written.distinct
  rw [toWireAll_eq hkeyed, Fields.get?_eq_some_iff_mem hkeys]
  constructor
  · intro hmem
    obtain ⟨⟨_, binding⟩, hpair, heq⟩ := List.mem_map.mp hmem
    cases heq
    obtain ⟨hpair, hstep⟩ := List.mem_filter.mp hpair
    exact ⟨binding, hpair, by simpa using hstep, rfl⟩
  · rintro ⟨binding, hpair, hstep, rfl⟩
    exact List.mem_map.mpr
      ⟨(slot, binding), List.mem_filter.mpr ⟨hpair, by simpa using hstep⟩, rfl⟩

/-- Reading the wire form back gives, in every slot that has one, the reading of what was written
there. -/
theorem parsePairs_toWireAll (hkeyed : Keyed bindings) :
    parsePairs (toWireAll bindings) =
      Fields.mapValues (fun binding => parse binding.toWire) (written bindings) := by
  have hread : ((Fields.mapValues toWire (written bindings)).filterMap fun pair =>
      if trim pair.1 = "" then none else some (trim pair.1, parse pair.2)) =
        Fields.mapValues (fun binding => parse binding.toWire) (written bindings) := by
    rw [Fields.mapValues, List.filterMap_map, Fields.mapValues, ← List.filterMap_eq_map]
    apply List.filterMap_congr
    intro pair hpair
    have hmem := List.mem_map_of_mem (f := Prod.fst) hpair
    simp [hkeyed.written.trimmed pair.1 hmem, hkeyed.written.filled pair.1 hmem]
  rw [toWireAll_eq hkeyed]
  refine (congrArg Fields.ofPairs hread).trans (Fields.ofPairs_eq_self ?_)
  simpa using hkeyed.written.distinct

/-- Bindings that are read back as they are come back from the wire form. -/
theorem parsePairs_toWireAll_eq_self (hkeyed : Keyed bindings)
    (hread : ∀ slot binding, (slot, binding) ∈ bindings →
      parse binding.toWire = binding ∧ binding.stepId? ≠ some "") :
    parsePairs (toWireAll bindings) = bindings := by
  have hall : written bindings = bindings := by
    apply List.filter_eq_self.mpr
    intro pair hpair
    simpa using (hread pair.1 pair.2 hpair).2
  rw [parsePairs_toWireAll hkeyed, hall, Fields.mapValues]
  refine (List.map_congr_left fun pair hpair => ?_).trans (List.map_id bindings)
  rw [(hread pair.1 pair.2 hpair).1, id]

end Binding

/-- References with one path are the same only for the same step. -/
theorem Path.stepReference_inj {first second path : String} :
    stepReference first path = stepReference second path ↔ first = second := by
  refine ⟨fun hsame => ?_, fun hsame => by rw [hsame]⟩
  have hchars := String.ofList_injective hsame
  by_cases hinner : dropOutput (trimChars path.toList) = []
  · simpa [hinner, String.toList_inj] using hchars
  · simpa [hinner, String.toList_inj] using hchars

end FlowGraph
