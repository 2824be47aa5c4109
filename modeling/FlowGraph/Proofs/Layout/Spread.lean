/-
# Layouts spread the steps

A layout leaves the nodes as they are and in their order; only steps move. Coordinates are computed
from slots by an arithmetic that is left open, so what they come to can be said for the exact
arithmetic of an ordered field: the steps of a stage take evenly spaced places around the height of
the origin, one each, and without cycles every arrow points to the right. With doubles the same
expressions are rounded, and nothing is claimed of their values here.
-/

import FlowGraph.Proofs.Definition.Reload
import FlowGraph.Proofs.Layout.Columns
import Mathlib.Tactic.Ring

namespace FlowGraph.Layout

open Arrows
open Stage (arrows compute entry stagedIds)

/-- The arithmetic of a field. -/
instance exactCoordinate {K : Type} [Field K] : Coordinate K where
  ofInt n := n
  add a b := a + b
  mul a b := a * b
  neg a := -a
  half a := a / 2

section Points

variable {α : Type} [Coordinate α]

/-- The point of a slot. -/
def Slot.point (spacing : Spacing α) (slot : Slot) : α × α := (slot.x spacing, slot.y spacing)

/-- The point that a layout gives to the node with an id. -/
def pointOf (spacing : Spacing α) (nodes : List Node) (edges : List Edge) (id : String) :
    Option (α × α) :=
  (slotOf nodes edges id).map (Slot.point spacing)

end Points

/-- The node at a point of the canvas, or where it stands if there is none. -/
def movedTo (node : Node) : Option (Number × Number) → Node
  | some (x, y) => { node with position := some [("x", x.toFloat), ("y", y.toFloat)] }
  | none => node.settled

section Spread

variable {nodes : List Node} {edges : List Edge}

theorem pointOf_of_isAnnotation {α : Type} [Coordinate α] (hids : (nodes.map Node.id).Nodup)
    (spacing : Spacing α) {node : Node} (hnode : node ∈ nodes)
    (hnote : node.isAnnotation = true) : pointOf spacing nodes edges node.id = none := by
  have hunstaged : node.id ∉ stagedIds nodes := by
    rw [Stage.mem_stagedIds_iff hids hnode, hnote]
    exact Bool.noConfusion
  rw [pointOf, slotOf_of_not_mem hids hunstaged, Option.map_none]

/-- Placing nodes moves each to the point of its slot. -/
theorem place_eq_map (hids : (nodes.map Node.id).Nodup) (edges : List Edge)
    (spacing : Spacing Number) :
    place spacing nodes edges =
      nodes.map fun node => movedTo node (pointOf spacing nodes edges node.id) := by
  have hmoved (node : Node) (slot : Option Slot) :
      Slot.place spacing node slot = movedTo node (slot.map (Slot.point spacing)) := by
    cases slot <;> rfl
  rw [place, slots_eq hids, List.zipWith_map_right, List.zipWith_self]
  apply List.map_congr_left
  intro node _
  rw [hmoved, pointOf, slotOf_eq hids]

variable {K : Type} [Field K]

/-- The point in a row of the column of a stage that is so many nodes high. -/
def gridPoint (spacing : Spacing K) (stage : Int) (height row : ℕ) : K × K :=
  (spacing.originX + stage * spacing.columnGap,
    spacing.originY - (height - 1) * spacing.rowGap / 2 + row * spacing.rowGap)

theorem Slot.point_eq_gridPoint (spacing : Spacing K) (slot : Slot) :
    slot.point spacing = gridPoint spacing slot.stage slot.height slot.row := by
  apply Prod.ext
  · rfl
  · show spacing.originY + -((((slot.height : ℤ) - 1 : ℤ) : K) * spacing.rowGap) / 2 +
      ((slot.row : ℤ) : K) * spacing.rowGap = _
    rw [gridPoint]
    push_cast
    ring

/-- A step stands in the column of its stage, in its row. -/
theorem pointOf_of_mem (hids : (nodes.map Node.id).Nodup) (spacing : Spacing K) {id : String}
    {stage : Int} (hid : id ∈ stageMembers nodes edges stage) :
    pointOf spacing nodes edges id =
      some (gridPoint spacing stage (stageMembers nodes edges stage).length
        (rowOf nodes edges id)) := by
  obtain ⟨hstaged, hstage⟩ := mem_stageMembers_iff.mp hid
  rw [pointOf, slotOf_of_mem hids hstaged, Option.map_some, Slot.point_eq_gridPoint,
    rowOf_of_mem hids hid, hstage, ← (columnOf_graphColumns_perm hids edges stage).length_eq]
  rfl

variable [LinearOrder K] [IsStrictOrderedRing K]

/-- What a layout makes of a graph in exact arithmetic. Annotations get no point. The nodes of a
stage take the points of its column, each once. No two nodes share a point unless a gap is zero, and
without cycles arrows point to the right. -/
structure IsSpread (spacing : Spacing K) (nodes : List Node) (edges : List Edge) : Prop where
  notes : ∀ node ∈ nodes, node.isAnnotation = true → pointOf spacing nodes edges node.id = none
  columns : ∀ stage : Int,
    ((stageMembers nodes edges stage).map (pointOf spacing nodes edges)).Perm
      ((List.range (stageMembers nodes edges stage).length).map fun row =>
        some (gridPoint spacing stage (stageMembers nodes edges stage).length row))
  apart : spacing.columnGap ≠ 0 → spacing.rowGap ≠ 0 →
    Set.InjOn (pointOf spacing nodes edges) {id | id ∈ stagedIds nodes}
  rightwards : Acyclic (arrows nodes edges) → 0 < spacing.columnGap →
    ∀ source target, Leads (arrows nodes edges) source target →
      ∃ here there, pointOf spacing nodes edges source = some here ∧
        pointOf spacing nodes edges target = some there ∧ here.1 < there.1

theorem isSpread (hids : (nodes.map Node.id).Nodup) (edges : List Edge) (spacing : Spacing K) :
    IsSpread spacing nodes edges where
  notes _ hnode hnote := pointOf_of_isAnnotation hids spacing hnode hnote
  columns stage := by
    rw [List.map_congr_left fun id hid => pointOf_of_mem hids spacing hid]
    have hrows := (map_rowOf_stageMembers_perm hids edges stage).map fun row =>
      some (gridPoint spacing stage (stageMembers nodes edges stage).length row)
    rwa [List.map_map] at hrows
  apart hcolumnGap hrowGap := by
    intro a ha b hb hsame
    have hmemA := mem_stageMembers ha edges
    have hmemB := mem_stageMembers hb edges
    rw [pointOf_of_mem hids spacing hmemA, pointOf_of_mem hids spacing hmemB] at hsame
    obtain ⟨hx, hy⟩ := Prod.mk.inj (Option.some.inj hsame)
    have hstage : entry (compute nodes edges) a = entry (compute nodes edges) b := by
      exact_mod_cast mul_right_cancel₀ hcolumnGap (add_left_cancel hx)
    rw [hstage] at hy hmemA
    have hrow : rowOf nodes edges a = rowOf nodes edges b := by
      exact_mod_cast mul_right_cancel₀ hrowGap (add_left_cancel hy)
    exact rowOf_injOn hids edges _ hmemA hmemB hrow
  rightwards hacyclic hgap source target hstep := by
    have hfree : ¬ BehindCycle (arrows nodes edges) source :=
      acyclic_iff_forall_not_behindCycle.mp hacyclic source
    have hclimb := Stage.entry_compute_lt_of_not_behindCycle hids hstep hfree
    obtain ⟨hsource, htarget⟩ := Stage.ends_mem_of_mem_arrows _ hstep
    refine ⟨_, _, pointOf_of_mem hids spacing (mem_stageMembers hsource edges),
      pointOf_of_mem hids spacing (mem_stageMembers htarget edges), ?_⟩
    apply add_lt_add_right
    exact mul_lt_mul_of_pos_right (Int.cast_lt.mpr hclimb) hgap

/-- Placing spreads the steps. Whatever the spacing, the nodes keep their order and all but their
places, and annotations keep these too; steps move to points that in exact arithmetic are spread. -/
theorem place_spreads_steps (hids : (nodes.map Node.id).Nodup) (edges : List Edge) :
    (∀ spacing : Spacing Number,
        place spacing nodes edges =
            (nodes.map fun node => movedTo node (pointOf spacing nodes edges node.id)) ∧
          (place spacing nodes edges).map Node.unplaced = nodes.map Node.unplaced ∧
          ∀ node placed, (node, placed) ∈ nodes.zip (place spacing nodes edges) →
            node.isAnnotation = true → placed.coordinates = node.coordinates) ∧
      ∀ (K : Type) [Field K] [LinearOrder K] [IsStrictOrderedRing K] (spacing : Spacing K),
        IsSpread spacing nodes edges := by
  refine ⟨fun spacing => ?_, fun K _ _ _ spacing => isSpread hids edges spacing⟩
  have hplace := place_eq_map hids edges spacing
  refine ⟨hplace, map_unplaced_place spacing nodes edges, ?_⟩
  intro node placed hpair hnote
  have hnode : node ∈ nodes := (List.of_mem_zip hpair).1
  have hmoved : placed = movedTo node (pointOf spacing nodes edges node.id) := by
    rw [hplace] at hpair
    obtain ⟨i, hi, heq⟩ := List.getElem_of_mem hpair
    rw [List.getElem_zip, List.getElem_map] at heq
    obtain ⟨rfl, rfl⟩ := Prod.mk.inj heq
    rfl
  rw [hmoved, pointOf_of_isAnnotation hids spacing hnode hnote]
  rfl

/-- Two steps behind one, and a note, with the usual distances. -/
theorem place_spreads_fork :
    let nodes := Stage.sketchedSteps ["start", "left", "right"] ++
      [{ id := "note", type := "note", data := { mode := "note" } }]
    let edges := Stage.sketchedEdges [("start", "left"), ("start", "right"), ("note", "left")]
    let spacing : Spacing ℚ := { columnGap := 380, rowGap := 180, originX := 120, originY := 220 }
    (nodes.map fun node => pointOf spacing nodes edges node.id) =
        [some (120, 220), some (500, 130), some (500, 310), none] ∧
      Acyclic (arrows nodes edges) ∧ IsSpread spacing nodes edges := by
  intro nodes edges spacing
  have hids : (nodes.map Node.id).Nodup := by decide
  let rank (id : String) : ℕ := if id = "start" then 0 else 1
  have hclimbs : ∀ arrow ∈ arrows nodes edges, rank arrow.1 < rank arrow.2 := by decide +kernel
  have hacyclic : Acyclic (arrows nodes edges) :=
    acyclic_of_rank rank fun a b hstep => hclimbs (a, b) hstep
  exact ⟨by decide +kernel, hacyclic, (place_spreads_steps hids edges).2 ℚ spacing⟩

end Spread

end FlowGraph.Layout
