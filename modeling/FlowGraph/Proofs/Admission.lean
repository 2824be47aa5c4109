/-
# Which connections are admitted, and with what weight

The guard's rules come in a fixed order, but its verdict does not depend on it: a connection is
allowed exactly where every rule is kept, and an error is exactly a refusal. What is left for a
warning is a need of the target that nothing the source produces meets. In a graph without cycles
the last rule says that the graph with the new connection still has none.
-/

import FlowGraph.Proofs.Fields
import FlowGraph.Proofs.Guard

namespace FlowGraph

open Relation Arrows

/-- The capability meets the need, on its own. -/
def Need.IsMetBy (need : Need) (capability : Capability) : Prop :=
  capability = .any ∨ capability ∈ need.metBy

theorem Need.isMet_iff {need : Need} {produces : List Capability} :
    need.isMet produces = true ↔ ∃ capability ∈ produces, need.IsMetBy capability := by
  simp only [isMet, IsMetBy, Bool.or_eq_true, List.any_eq_true, List.contains_iff_mem]
  constructor
  · rintro (hany | ⟨capability, hmeets, hmem⟩)
    · exact ⟨.any, hany, Or.inl rfl⟩
    · exact ⟨capability, hmem, Or.inr hmeets⟩
  · rintro ⟨capability, hmem, rfl | hmeets⟩
    · exact Or.inl hmem
    · exact Or.inr ⟨capability, hmeets, hmem⟩

namespace Connection

/-- The ids name nodes, and the types of these admit an edge from the first to the second. -/
def Joinable (document : Document) (source target : String) : Prop :=
  ∃ sourceNode targetNode, document.node? source = some sourceNode ∧
    document.node? target = some targetNode ∧ targetNode.isSourceOnly = false ∧
      sourceNode.isTerminalOnly = false

/-- The modes of two nodes leave something open: the mode of the target has a need that no
capability meets which the mode of the source produces. A node of a type that the catalog does not
know has no mode, so nothing is known to be open. -/
def LeavesOpen (source target : Node) : Prop :=
  ∃ sourceMode targetMode, source.modeRecord? = some sourceMode ∧
    target.modeRecord? = some targetMode ∧
      ∃ need ∈ targetMode.needs, ∀ capability ∈ sourceMode.produces, ¬ need.IsMetBy capability

theorem missingCapabilities_ne_nil_iff {source target : Node} :
    missingCapabilities source target ≠ [] ↔ LeavesOpen source target := by
  unfold missingCapabilities LeavesOpen
  cases source.modeRecord? with
  | none => simp
  | some sourceMode =>
      cases target.modeRecord? with
      | none => simp
      | some targetMode =>
          simp [Document.distinct_eq_nil_iff, Need.isMet_iff]

/-- The weight of a verdict: an error refuses, and a warning tells that something is open. -/
structure Weighs (isOpen : Prop) (verdict : Verdict) : Prop where
  error_iff : verdict.level = .error ↔ verdict.allow = false
  warning_iff : verdict.level = .warning ↔ verdict.allow = true ∧ isOpen

theorem weighs_refuse (isOpen : Prop) (message : String) (suggestions : List String) :
    Weighs isOpen (.refuse message suggestions) where
  error_iff := by simp [Verdict.refuse]
  warning_iff := by simp [Verdict.refuse]

theorem weighs_checkNodes (source target : Node) :
    Weighs (LeavesOpen source target) (checkNodes (some source) (some target)) := by
  rw [checkNodes]
  split
  · exact weighs_refuse _ _ _
  · split
    · exact weighs_refuse _ _ _
    · cases hmissing : missingCapabilities source target with
      | nil =>
          have hclosed : ¬ LeavesOpen source target := by
            rw [← missingCapabilities_ne_nil_iff, hmissing]
            simp
          exact ⟨by simp, by simp [hclosed]⟩
      | cons first others =>
          have hopen : LeavesOpen source target := by
            rw [← missingCapabilities_ne_nil_iff, hmissing]
            simp
          exact ⟨by simp, by simp [hopen]⟩

theorem weighs_validate (document : Document) (source target : String) :
    Weighs (∃ sourceNode targetNode, document.node? source = some sourceNode ∧
        document.node? target = some targetNode ∧ LeavesOpen sourceNode targetNode)
      (validate document source target) := by
  rw [validate]
  cases document.node? source with
  | none => exact weighs_refuse _ _ _
  | some sourceNode =>
      cases document.node? target with
      | none => exact weighs_refuse _ _ _
      | some targetNode =>
          simp only
          split
          · exact weighs_refuse _ _ _
          · split
            · exact weighs_refuse _ _ _
            · simpa using weighs_checkNodes sourceNode targetNode

/-- The guard's verdict in terms of the graph: what it allows, what its levels mean, and, where the
graph has no cycle, that it allows what closes none. -/
theorem validate_iff (document : Document) (source target : String) :
    ((validate document source target).allow = true ↔
        Joinable document source target ∧ source ≠ target ∧
          ¬ TransGen (Leads document.arrows) target source) ∧
      ((validate document source target).level = .error ↔
        (validate document source target).allow = false) ∧
      ((validate document source target).level = .warning ↔
        (validate document source target).allow = true ∧
          ∃ sourceNode targetNode, document.node? source = some sourceNode ∧
            document.node? target = some targetNode ∧ LeavesOpen sourceNode targetNode) ∧
      (Acyclic document.arrows → Joinable document source target →
        ((validate document source target).allow = true ↔
          Acyclic (document.arrows ++ [(source, target)]))) := by
  have hallow : (validate document source target).allow = true ↔
      Joinable document source target ∧ ¬ ReflTransGen (Leads document.arrows) target source := by
    simp only [validate_allow_iff, Joinable, ← and_assoc, exists_and_right]
  have hweighs := weighs_validate document source target
  refine ⟨?_, hweighs.error_iff, hweighs.warning_iff, fun hacyclic hjoinable => ?_⟩
  · rw [hallow, reflTransGen_iff_eq_or_transGen, not_or]
  · rw [hallow, acyclic_append_arrow_iff, and_iff_right hjoinable, and_iff_right hacyclic]

/-- A table behind a step that produces no records: allowed, with a warning. -/
theorem validate_iff_table_behind_texts :
    let document : Document :=
      { nodes :=
          [{ id := "start", type := "trigger", data := { mode := "manual" } },
           { id := "sort", type := "ai", data := { mode := "classify" } },
           { id := "table", type := "output", data := { mode := "export_csv" } }]
        edges := [{ id := "first", source := "start", target := "sort" }] }
    Acyclic document.arrows ∧ Joinable document "sort" "table" ∧
      (validate document "sort" "table").level = .warning ∧
        Acyclic (document.arrows ++ [("sort", "table")]) := by
  intro document
  have hacyclic : Acyclic document.arrows :=
    @acyclic_zip_tail String _ ["start", "sort"] (by decide)
  have hjoinable : Joinable document "sort" "table" :=
    ⟨_, _, rfl, rfl, by decide +kernel, by decide +kernel⟩
  have hallow : (validate document "sort" "table").allow = true := by decide +kernel
  obtain ⟨-, -, -, hcloses⟩ := validate_iff document "sort" "table"
  exact ⟨hacyclic, hjoinable, by decide +kernel, (hcloses hacyclic hjoinable).mp hallow⟩

end Connection

end FlowGraph
