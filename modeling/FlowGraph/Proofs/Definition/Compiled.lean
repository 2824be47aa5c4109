/-
# What a compiled definition consists of

A definition has one step for every placement. Its links run between the placements that an edge
joins, or along the chain of all steps when no edge joins any, and its entry steps are those that
no link enters. Said this way, nothing about a definition needs the compiler's loops again.
-/

import FlowGraph.Proofs.Definition.Placement
import FlowGraph.Proofs.Arrows

namespace FlowGraph

/-- The two steps of a link as an arrow. -/
def Link.ends (link : Link) : String × String := (link.source, link.target)

/-- The ids of the steps in order. -/
def Definition.stepIds (definition : Definition) : List String := definition.steps.map Step.id

/-- The links as arrows between ids of steps. -/
def Definition.arrows (definition : Definition) : List (String × String) :=
  definition.links.map Link.ends

namespace Compile

open FlowGraph.Text

/-- The two placements that an edge joins: its ends stand for executed nodes with different
steps. -/
def joined? (all : List Placement) (edge : Edge) : Option (Placement × Placement) :=
  match owner? all (trim edge.source), owner? all (trim edge.target) with
  | some source, some target =>
    if source.stepId = target.stepId then none else some (source, target)
  | _, _ => none

/-- The pairs of placements that edges join, in the order of the edges. -/
def joins (nodes : List Node) (edges : List Edge) : List (Placement × Placement) :=
  edges.filterMap (joined? (placed nodes))

/-- The arrows between the steps of placements. -/
def stepArrows (pairs : List (Placement × Placement)) : List (String × String) :=
  pairs.map fun pair => (pair.1.stepId, pair.2.stepId)

theorem joined?_eq_some_iff {all : List Placement} {edge : Edge} {source target : Placement} :
    joined? all edge = some (source, target) ↔
      owner? all (trim edge.source) = some source ∧ owner? all (trim edge.target) = some target ∧
        source.stepId ≠ target.stepId := by
  unfold joined?
  cases owner? all (trim edge.source) with
  | none => simp
  | some first =>
      cases owner? all (trim edge.target) with
      | none => simp
      | some second =>
          by_cases hsame : first.stepId = second.stepId
          · simp only [hsame, if_true, Option.some.injEq, reduceCtorEq, false_iff, not_and, not_not]
            rintro rfl rfl
            exact hsame
          · simp only [if_neg hsame, Option.some.injEq, Prod.mk.injEq]
            constructor
            · rintro ⟨rfl, rfl⟩
              exact ⟨rfl, rfl, hsame⟩
            · exact fun h => ⟨h.1, h.2.1⟩

theorem mem_joins_iff {nodes : List Node} {edges : List Edge} {source target : Placement} :
    (source, target) ∈ joins nodes edges ↔ ∃ edge ∈ edges,
      owner? (placed nodes) (trim edge.source) = some source ∧
        owner? (placed nodes) (trim edge.target) = some target ∧
          source.stepId ≠ target.stepId := by
  simp only [joins, List.mem_filterMap, joined?_eq_some_iff]

/-- The steps of two placements determine them. -/
theorem pair_eq_of_steps_eq {nodes : List Node} {first second : Placement × Placement}
    (hfirst : first.1 ∈ placed nodes ∧ first.2 ∈ placed nodes)
    (hsecond : second.1 ∈ placed nodes ∧ second.2 ∈ placed nodes)
    (hsteps : (first.1.stepId, first.2.stepId) = (second.1.stepId, second.2.stepId)) :
    first = second := by
  obtain ⟨hsource, htarget⟩ := Prod.mk.inj hsteps
  exact Prod.ext (placement_eq_of_stepId_eq hfirst.1 hsecond.1 hsource)
    (placement_eq_of_stepId_eq hfirst.2 hsecond.2 htarget)

theorem mem_placed_of_joined? {nodes : List Node} {edge : Edge} {pair : Placement × Placement}
    (hjoined : joined? (placed nodes) edge = some pair) :
    pair.1 ∈ placed nodes ∧ pair.2 ∈ placed nodes := by
  obtain ⟨hsource, htarget, -⟩ := joined?_eq_some_iff.mp hjoined
  exact ⟨(mem_of_owner? hsource).1, (mem_of_owner? htarget).1⟩

theorem mem_placed_of_mem_joins {nodes : List Node} {edges : List Edge}
    {pair : Placement × Placement} (hpair : pair ∈ joins nodes edges) :
    pair.1 ∈ placed nodes ∧ pair.2 ∈ placed nodes := by
  obtain ⟨edge, -, hjoined⟩ := List.mem_filterMap.mp hpair
  exact mem_placed_of_joined? hjoined

section Links

variable {all : List Placement} {progress : Progress}

theorem ends_link? (hidMap : progress.idMap = Fields.ofPairs
      (all.map fun placement => (placement.canvas, placement.stepId)))
    (used : List String) (index : Nat) (edge : Edge) :
    (link? progress used index edge).map Link.ends =
      (joined? all edge).map fun pair => (pair.1.stepId, pair.2.stepId) := by
  rw [link?, hidMap, get?_ofPairs_owner, get?_ofPairs_owner, joined?]
  cases owner? all (trim edge.source) with
  | none => rfl
  | some source =>
      cases owner? all (trim edge.target) with
      | none => rfl
      | some target =>
          by_cases hsame : source.stepId = target.stepId
          · simp [hsame]
          · simp [hsame, Link.ends]

/-- The links of edges run between the placements that the edges join. -/
theorem ends_links (hidMap : progress.idMap = Fields.ofPairs
      (all.map fun placement => (placement.canvas, placement.stepId)))
    (used : List String) (index : Nat) (edges : List Edge) :
    (links progress used index edges).map Link.ends =
      stepArrows (edges.filterMap (joined? all)) := by
  induction edges generalizing used index with
  | nil => rfl
  | cons edge rest ih =>
      have hends := ends_link? hidMap used index edge
      rw [links, List.filterMap_cons]
      cases hlink : link? progress used index edge with
      | none =>
          have hjoined : joined? all edge = none := by simpa [hlink] using hends
          simp [hjoined, ih]
      | some link =>
          obtain ⟨pair, hjoined, hpair⟩ : ∃ pair, joined? all edge = some pair ∧
              (pair.1.stepId, pair.2.stepId) = link.ends := by
            simpa [hlink, eq_comm] using hends
          simp only [hjoined, List.map_cons, stepArrows, ih, hpair]

theorem ends_chainFrom (number : Nat) (ids : List String) :
    (chainFrom number ids).map Link.ends = ids.zip ids.tail := by
  induction ids generalizing number with
  | nil => rfl
  | cons a rest ih =>
      cases rest with
      | nil => rfl
      | cons b rest =>
          rw [chainFrom, List.map_cons, ih]
          rfl

/-- The chain leaves out no step, because no step id is blank. -/
theorem chain_eq_chainFrom {ids : List String} (hids : ∀ id ∈ ids, IsStepId id) :
    chain ids = chainFrom 1 ids := by
  have htrimmed : ids.map trim = ids := by
    rw [List.map_congr_left fun id hid => (hids id hid).trim_eq, List.map_id'']
    exact fun _ => rfl
  have hfilter : ids.filter (fun id => id ≠ "") = ids :=
    List.filter_eq_self.mpr fun id hid => by simpa using (hids id hid).ne_empty
  rw [chain, htrimmed, hfilter]

theorem ends_chain {ids : List String} (hids : ∀ id ∈ ids, IsStepId id) :
    (chain ids).map Link.ends = ids.zip ids.tail := by
  rw [chain_eq_chainFrom hids, ends_chainFrom]

end Links

/-- What compiling yields when it yields a definition. -/
structure Compiled (nodes : List Node) (edges : List Edge) (definition : Definition) : Prop where
  nonempty : placed nodes ≠ []
  steps_eq : definition.steps = (placed nodes).map Placement.step
  idMap_eq : definition.idMap = Fields.ofPairs
    ((placed nodes).map fun placement => (placement.canvas, placement.stepId))
  arrows_eq : definition.arrows =
    if joins nodes edges = [] then definition.stepIds.zip definition.stepIds.tail
    else stepArrows (joins nodes edges)
  entry_eq : definition.entry = entryIds definition.stepIds definition.links

theorem map_stepId_placed (nodes : List Node) :
    ((placed nodes).map Placement.step).map Step.id = (placed nodes).map Placement.stepId := by
  simp [Function.comp_def, Placement.step, step]

/-- The tables of a graph are readings of its placements. -/
theorem addAll_empty (nodes : List Node) :
    Progress.addAll {} 0 nodes =
      { steps := (placed nodes).map Placement.step
        idMap := Fields.ofPairs
          ((placed nodes).map fun placement => (placement.canvas, placement.stepId))
        keys := Fields.ofPairs
          ((placed nodes).map fun placement => (placement.canvas, nodeKey placement.node)) } := by
  rw [addAll_eq]
  rfl

theorem used_addAll (nodes : List Node) :
    (Progress.addAll {} 0 nodes).used = (placed nodes).map Placement.stepId := by
  rw [addAll_empty, Progress.used, map_stepId_placed]

theorem Compiled.stepIds_eq {nodes : List Node} {edges : List Edge} {definition : Definition}
    (hcompiled : Compiled nodes edges definition) :
    definition.stepIds = (placed nodes).map Placement.stepId := by
  rw [Definition.stepIds, hcompiled.steps_eq, map_stepId_placed]

theorem compiled_of_eq_ok {policy : Policy} {nodes : List Node} {edges : List Edge}
    {definition : Definition} (hok : Compile.definition policy nodes edges = .ok definition) :
    Compiled nodes edges definition := by
  have hidMap := congrArg Progress.idMap (addAll_empty nodes)
  have hused := used_addAll nodes
  have hends := ends_links hidMap [] 0 edges
  have hgrammar : ∀ id ∈ (placed nodes).map Placement.stepId, IsStepId id := by
    rintro id hid
    obtain ⟨placement, hmem, rfl⟩ := List.mem_map.mp hid
    exact isStepId_of_mem_placements hmem
  simp only [Compile.definition] at hok
  split at hok
  · cases hok
  · rename_i hnonempty
    split at hok
    · cases hok
    · cases hok
      have hstepIds : ((Progress.addAll {} 0 nodes).steps).map Step.id =
          (placed nodes).map Placement.stepId := hused
      refine ⟨?_, by rw [addAll_empty], hidMap, ?_, rfl⟩
      · simpa [hused] using hnonempty
      · simp only [Definition.arrows, Definition.stepIds]
        have hdrawn : links (Progress.addAll {} 0 nodes) [] 0 edges = [] ↔
            joins nodes edges = [] := by
          rw [← List.map_eq_nil_iff (f := Link.ends), hends, stepArrows, List.map_eq_nil_iff,
            joins]
        by_cases hnone : joins nodes edges = []
        · rw [if_pos hnone, if_pos (by simpa using hdrawn.mpr hnone), hstepIds, hused,
            ends_chain hgrammar]
        · rw [if_neg hnone, if_neg (by simpa using mt hdrawn.mp hnone), hends, joins]

/-- Compiling fails only for want of an executed node or for a version that is too large. -/
theorem exists_definition (policy : Policy) {nodes : List Node} (edges : List Edge)
    (hplaced : placed nodes ≠ []) (hversions : ∀ node ∈ nodes, hasHugeVersion node = false) :
    ∃ definition, Compile.definition policy nodes edges = .ok definition := by
  have hused : (Progress.addAll {} 0 nodes).used.isEmpty = false := by
    rw [used_addAll]
    simpa using hplaced
  have hhuge : nodes.any hasHugeVersion = false := by
    simpa using hversions
  simp only [Compile.definition, hused, hhuge]
  exact ⟨_, rfl⟩

end Compile

end FlowGraph
