/-
# What becomes of each edge

The links of a definition do not tell which edges they were made of. This module keeps the two side
by side: every edge of a graph in its order, with the link that it becomes or with nothing if it is
dropped. The links that are drawn are what is left of that list, and a link is known up to its id
from the two placements that its edge joins and from the edge's handle. The chain that stands in for
missing edges is made of no edge at all.
-/

import FlowGraph.Proofs.Definition.Compiled

namespace FlowGraph

/-- The link is followed on a route only. -/
def Link.isRouted (link : Link) : Bool :=
  match link.condition with
  | .always => false
  | .route _ => true

namespace Compile

open FlowGraph.Text

/-- Edges, the first of which has the given index, each with the link that it becomes. `used` are
the ids of the links before it. -/
def translations (progress : Progress) (used : List String) (index : Nat) :
    List Edge → List (Edge × Option Link)
  | [] => []
  | edge :: rest =>
    let link := link? progress used index edge
    (edge, link) :: translations progress (used ++ (link.map Link.id).toList) (index + 1) rest

/-- The edges of a graph in order, each with the link that compiling makes of it. -/
def translated (nodes : List Node) (edges : List Edge) : List (Edge × Option Link) :=
  translations (Progress.addAll {} 0 nodes) [] 0 edges

/-- The links that are made of edges. -/
def drawnLinks (nodes : List Node) (edges : List Edge) : List Link :=
  (translated nodes edges).filterMap Prod.snd

/-- The condition under which the link of an edge is followed: its handle, if the node that the
edge leaves routes the run. -/
def conditionOf (all : List Placement) (edge : Edge) : Condition :=
  condition (lower (((owner? all (trim edge.source)).map fun owner => nodeKey owner.node).getD ""))
    (trim (edge.handle.getD ""))

section Translations

variable {progress : Progress} {used : List String} {index : Nat} {edges : List Edge}

theorem links_eq_filterMap (progress : Progress) (used : List String) (index : Nat)
    (edges : List Edge) :
    links progress used index edges =
      (translations progress used index edges).filterMap Prod.snd := by
  induction edges generalizing used index with
  | nil => rfl
  | cons edge rest ih =>
      rw [links, translations, List.filterMap_cons]
      cases hlink : link? progress used index edge with
      | none => simp [ih]
      | some link => simp [ih]

theorem map_fst_translations (progress : Progress) (used : List String) (index : Nat)
    (edges : List Edge) : (translations progress used index edges).map Prod.fst = edges := by
  induction edges generalizing used index with
  | nil => rfl
  | cons edge rest ih => rw [translations, List.map_cons, ih]

theorem exists_link?_of_mem {pair : Edge × Option Link}
    (hpair : pair ∈ translations progress used index edges) :
    ∃ before number, pair.2 = link? progress before number pair.1 := by
  induction edges generalizing used index with
  | nil => cases hpair
  | cons edge rest ih =>
      rw [translations] at hpair
      rcases List.mem_cons.mp hpair with rfl | hrest
      · exact ⟨used, index, rfl⟩
      · exact ih hrest

theorem condition_of_link? {all : List Placement}
    (hkeys : progress.keys = Fields.ofPairs
      (all.map fun placement => (placement.canvas, nodeKey placement.node)))
    {edge : Edge} {link : Link} (hlink : link? progress used index edge = some link) :
    link.condition = conditionOf all edge := by
  rw [link?] at hlink
  split at hlink
  · split at hlink
    · cases hlink
    · cases hlink
      simp only [conditionOf, hkeys, get?_ofPairs_owner]
  · cases hlink

end Translations

section Translated

variable {nodes : List Node} {edges : List Edge} {pair : Edge × Option Link}

theorem map_fst_translated (nodes : List Node) (edges : List Edge) :
    (translated nodes edges).map Prod.fst = edges :=
  map_fst_translations _ _ _ edges

/-- An edge becomes a link between the steps of the placements that it joins, and nothing if it
joins none. -/
theorem ends_of_mem_translated (hpair : pair ∈ translated nodes edges) :
    pair.2.map Link.ends =
      (joined? (placed nodes) pair.1).map fun joined => (joined.1.stepId, joined.2.stepId) := by
  obtain ⟨used, index, hlink⟩ := exists_link?_of_mem hpair
  rw [hlink, ends_link? (congrArg Progress.idMap (addAll_empty nodes))]

theorem condition_of_mem_translated {link : Link} (hpair : pair ∈ translated nodes edges)
    (hlink : pair.2 = some link) : link.condition = conditionOf (placed nodes) pair.1 := by
  obtain ⟨used, index, hmade⟩ := exists_link?_of_mem hpair
  exact condition_of_link? (congrArg Progress.keys (addAll_empty nodes)) (hmade.symm.trans hlink)

theorem joined?_eq_none_iff_of_mem (hpair : pair ∈ translated nodes edges) :
    joined? (placed nodes) pair.1 = none ↔ pair.2 = none := by
  rw [← Option.map_eq_none_iff, ← ends_of_mem_translated hpair, Option.map_eq_none_iff]

theorem drawnLinks_eq_links (nodes : List Node) (edges : List Edge) :
    links (Progress.addAll {} 0 nodes) [] 0 edges = drawnLinks nodes edges :=
  links_eq_filterMap _ _ _ _

end Translated

section Definition

variable {policy : Policy} {nodes : List Node} {edges : List Edge}

/-- The links of a definition are the ones that are drawn, and a chain if there is none. -/
theorem links_of_eq_ok {definition : Definition}
    (hok : Compile.definition policy nodes edges = .ok definition) :
    definition.links =
      if drawnLinks nodes edges = [] then chain definition.stepIds
      else drawnLinks nodes edges := by
  simp only [Compile.definition] at hok
  split at hok
  · cases hok
  · split at hok
    · cases hok
    · cases hok
      simp only [drawnLinks_eq_links, List.isEmpty_iff]
      rfl

/-- Compiling fails for want of an executed node, or for a version that is too large. -/
theorem definition_cases (policy : Policy) (nodes : List Node) (edges : List Edge) :
    (∃ definition, Compile.definition policy nodes edges = .ok definition) ∨
      Compile.definition policy nodes edges = .error .nothingToCompile ∧ placed nodes = [] ∨
      Compile.definition policy nodes edges = .error .outOfRange := by
  simp only [Compile.definition, used_addAll]
  split
  · rename_i hnone
    exact .inr (.inl ⟨rfl, by simpa using hnone⟩)
  · split
    · exact .inr (.inr rfl)
    · exact .inl ⟨_, rfl⟩

end Definition

end Compile

end FlowGraph
