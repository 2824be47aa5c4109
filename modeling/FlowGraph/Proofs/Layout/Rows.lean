/-
# Rows follow the parents

Within a column the nodes ascend by ranks that are overwritten from column to column. Without cycles
every parent stands further left than its children, so by the time a column is sorted the ranks of
all parents are their final rows, and the ranks of the column's own nodes still tell their places in
the document. Hence the rows of a stage can be described without the loop: by the means of the final
rows at the sources of the arrows, then by place. Behind a cycle a parent may stand in the same
column or further right, and this description fails.
-/

import FlowGraph.Proofs.Layout.Spread

namespace FlowGraph.Layout

open Arrows
open Stage (arrows compute entry stagedIds)

/-- The sources of the arrows into a node, one for each arrow. -/
def sourcesOf (arrows : List (String × String)) (id : String) : List String :=
  (arrows.filter fun arrow => arrow.2 = id).map Prod.fst

theorem mem_sourcesOf_iff {arrows : List (String × String)} {source id : String} :
    source ∈ sourcesOf arrows id ↔ Leads arrows source id := by
  simp [sourcesOf, Leads]

section Rows

variable {nodes : List Node} {edges : List Edge} {stage : Int} {u v : String}

theorem mem_stagedIds_of_mem_sourcesOf {source : String}
    (hsource : source ∈ sourcesOf (arrows nodes edges) u) : source ∈ stagedIds nodes :=
  (Stage.ends_mem_of_mem_arrows _ (mem_sourcesOf_iff.mp hsource)).1

theorem parents_compute (hids : (nodes.map Node.id).Nodup) {id : String}
    (hid : id ∈ stagedIds nodes) :
    parents (compute nodes edges) edges id = sourcesOf (arrows nodes edges) id := by
  rw [sourcesOf, arrows, Stage.links, List.filter_map, List.filter_filter, List.map_map, parents]
  congr 1
  apply List.filter_congr
  intro edge _
  rw [Bool.eq_iff_iff]
  simp only [Bool.and_eq_true, decide_eq_true_eq, has_compute_iff hids, Function.comp_apply,
    List.contains_iff_mem]
  constructor
  · rintro ⟨⟨rfl, hsource⟩, hne⟩
    exact ⟨rfl, ⟨hsource, hid⟩, hne⟩
  · rintro ⟨rfl, ⟨hsource, -⟩, hne⟩
    exact ⟨⟨rfl, hsource⟩, hne⟩

/-! ## Without cycles -/

section Acyclic

variable (hids : (nodes.map Node.id).Nodup) (hacyclic : Acyclic (arrows nodes edges))
include hids hacyclic

/-- Stages count from zero. -/
theorem exists_isGreatest_entry (hu : u ∈ stagedIds nodes) :
    ∃ depth : ℕ, entry (compute nodes edges) u = depth ∧
      IsGreatest (walkLengths (arrows nodes edges) u) depth := by
  obtain ⟨depth, hfound, hgreatest⟩ := (Stage.isStaging_compute hids).longest u hu
    (acyclic_iff_forall_not_behindCycle.mp hacyclic u)
  exact ⟨depth, by rw [entry, hfound, Option.getD_some], hgreatest⟩

theorem entry_lt_of_mem_sourcesOf {source : String}
    (hsource : source ∈ sourcesOf (arrows nodes edges) u) :
    entry (compute nodes edges) source < entry (compute nodes edges) u :=
  Stage.entry_compute_lt_of_not_behindCycle hids (mem_sourcesOf_iff.mp hsource)
    (acyclic_iff_forall_not_behindCycle.mp hacyclic source)

/-- Just the nodes of the first stage are not entered by arrows. -/
theorem sourcesOf_eq_nil_iff (hu : u ∈ stagedIds nodes) :
    sourcesOf (arrows nodes edges) u = [] ↔ entry (compute nodes edges) u = 0 := by
  obtain ⟨depth, hdepth, ⟨first, hwalk⟩, -⟩ := exists_isGreatest_entry hids hacyclic hu
  constructor
  · intro hnone
    cases hwalk with
    | refl => exact hdepth
    | tail _ hstep =>
        rw [← mem_sourcesOf_iff, hnone] at hstep
        exact absurd hstep List.not_mem_nil
  · intro hzero
    rw [List.eq_nil_iff_forall_not_mem]
    intro source hsource
    have hbelow := entry_lt_of_mem_sourcesOf hids hacyclic hsource
    obtain ⟨low, hlow, -⟩ := exists_isGreatest_entry hids hacyclic
      (mem_stagedIds_of_mem_sourcesOf hsource)
    omega

end Acyclic

/-! ## The order of rows -/

theorem idxOf_stagedIds_lt_iff (hids : (nodes.map Node.id).Nodup) (hu : u ∈ stagedIds nodes)
    (hv : v ∈ stagedIds nodes) :
    (stagedIds nodes).idxOf u < (stagedIds nodes).idxOf v ↔
      (nodes.map Node.id).idxOf u < (nodes.map Node.id).idxOf v :=
  Order.idxOf_lt_idxOf_iff
    ((Stage.pairwise_idxOf_lt hids).sublist (List.filter_sublist.map _)) hu hv

/-- The ranks at which the column of a stage is sorted. -/
def rankOfGraph (nodes : List Node) (edges : List Edge) (stage : Int) : String → ℕ :=
  rankAt (compute nodes edges) (stagedIds nodes) (graphColumns nodes edges) stage

theorem rowOf_lt_rowOf_iff (hids : (nodes.map Node.id).Nodup)
    (hu : u ∈ stageMembers nodes edges stage) (hv : v ∈ stageMembers nodes edges stage) :
    rowOf nodes edges u < rowOf nodes edges v ↔
      standing (parents (compute nodes edges) edges) (rankOfGraph nodes edges stage) u <
        standing (parents (compute nodes edges) edges) (rankOfGraph nodes edges stage) v := by
  have hperm := columnOf_graphColumns_perm hids edges stage
  rw [rowOf_of_mem hids hu, rowOf_of_mem hids hv]
  exact Order.idxOf_lt_idxOf_iff ((areColumns_graphColumns hids edges).climbs stage)
    (hperm.mem_iff.mpr hu) (hperm.mem_iff.mpr hv)

/-- The nodes of a column are ranked by their places in the document. -/
theorem rankOfGraph_lt_iff (hids : (nodes.map Node.id).Nodup)
    (hu : u ∈ stageMembers nodes edges stage) (hv : v ∈ stageMembers nodes edges stage) :
    rankOfGraph nodes edges stage u < rankOfGraph nodes edges stage v ↔
      (nodes.map Node.id).idxOf u < (nodes.map Node.id).idxOf v := by
  obtain ⟨hstagedU, hstageU⟩ := mem_stageMembers_iff.mp hu
  obtain ⟨hstagedV, hstageV⟩ := mem_stageMembers_iff.mp hv
  rw [rankOfGraph, rankAt, rankAt, if_neg hstageU.not_lt, if_neg hstageV.not_lt,
    idxOf_ranked_lt_iff (Stage.nodup_stagedIds hids) hstagedU hstagedV (hstageU.trans hstageV.symm),
    idxOf_stagedIds_lt_iff hids hstagedU hstagedV]

/-- A node further left is ranked by its final row. -/
theorem rankOfGraph_of_lt (hids : (nodes.map Node.id).Nodup) (hu : u ∈ stagedIds nodes)
    (hlt : entry (compute nodes edges) u < stage) :
    rankOfGraph nodes edges stage u = rowOf nodes edges u := by
  rw [rankOfGraph, rankAt, if_pos hlt, rowOf_of_mem hids (mem_stageMembers hu edges)]

/-- How the rows of a layout are ordered. In the first column the nodes are in the order of the
document. In any later one every node is entered by arrows, all from further left, and the nodes are
ordered by the mean of the rows that these arrows come from, then by place in the document. -/
structure RowsFollowParents (nodes : List Node) (edges : List Edge) : Prop where
  first : ∀ u ∈ stageMembers nodes edges 0, ∀ v ∈ stageMembers nodes edges 0,
    (rowOf nodes edges u < rowOf nodes edges v ↔
      (nodes.map Node.id).idxOf u < (nodes.map Node.id).idxOf v)
  entered : ∀ stage ≥ 1, ∀ u ∈ stageMembers nodes edges stage,
    sourcesOf (arrows nodes edges) u ≠ [] ∧
      ∀ source ∈ sourcesOf (arrows nodes edges) u, entry (compute nodes edges) source < stage
  later : ∀ stage ≥ 1, ∀ u ∈ stageMembers nodes edges stage,
    ∀ v ∈ stageMembers nodes edges stage,
      (rowOf nodes edges u < rowOf nodes edges v ↔
        toLex (mean (rowOf nodes edges) (sourcesOf (arrows nodes edges) u),
            (nodes.map Node.id).idxOf u) <
          toLex (mean (rowOf nodes edges) (sourcesOf (arrows nodes edges) v),
            (nodes.map Node.id).idxOf v))

theorem rowsFollowParents (hids : (nodes.map Node.id).Nodup)
    (hacyclic : Acyclic (arrows nodes edges)) : RowsFollowParents nodes edges where
  first := by
    intro u hu v hv
    have hcentre {id : String} (hid : id ∈ stageMembers nodes edges 0) :
        centre (parents (compute nodes edges) edges) (rankOfGraph nodes edges 0) id =
          rankOfGraph nodes edges 0 id := by
      obtain ⟨hstaged, hstage⟩ := mem_stageMembers_iff.mp hid
      rw [centre, parents_compute hids hstaged,
        if_pos ((sourcesOf_eq_nil_iff hids hacyclic hstaged).mpr hstage)]
    rw [rowOf_lt_rowOf_iff hids hu hv, standing, standing, hcentre hu, hcentre hv,
      Prod.Lex.toLex_lt_toLex, Nat.cast_lt, Nat.cast_inj, ← rankOfGraph_lt_iff hids hu hv]
    omega
  entered := by
    intro stage hstage u hu
    obtain ⟨hstaged, rfl⟩ := mem_stageMembers_iff.mp hu
    refine ⟨fun hnone => ?_, fun source hsource => entry_lt_of_mem_sourcesOf hids hacyclic hsource⟩
    rw [sourcesOf_eq_nil_iff hids hacyclic hstaged] at hnone
    omega
  later := by
    intro stage hstage u hu v hv
    have hcentre {id : String} (hid : id ∈ stageMembers nodes edges stage) :
        centre (parents (compute nodes edges) edges) (rankOfGraph nodes edges stage) id =
          mean (rowOf nodes edges) (sourcesOf (arrows nodes edges) id) := by
      obtain ⟨hstaged, rfl⟩ := mem_stageMembers_iff.mp hid
      have hentered : sourcesOf (arrows nodes edges) id ≠ [] := by
        rw [Ne, sourcesOf_eq_nil_iff hids hacyclic hstaged]
        omega
      rw [centre, parents_compute hids hstaged, if_neg hentered]
      apply mean_congr
      intro source hsource
      exact rankOfGraph_of_lt hids (mem_stagedIds_of_mem_sourcesOf hsource)
        (entry_lt_of_mem_sourcesOf hids hacyclic hsource)
    rw [rowOf_lt_rowOf_iff hids hu hv, standing, standing, hcentre hu, hcentre hv,
      Prod.Lex.toLex_lt_toLex, Prod.Lex.toLex_lt_toLex]
    exact or_congr_right (and_congr_right' (rankOfGraph_lt_iff hids hu hv))

/-- Rows follow the final rows of the parents, and with a positive gap between rows an earlier row
of a column is drawn further up. -/
theorem rows_follow_parents (hids : (nodes.map Node.id).Nodup)
    (hacyclic : Acyclic (arrows nodes edges)) :
    RowsFollowParents nodes edges ∧
      ∀ (K : Type) [Field K] [LinearOrder K] [IsStrictOrderedRing K] (spacing : Spacing K),
        0 < spacing.rowGap → ∀ stage, ∀ u ∈ stageMembers nodes edges stage,
          ∀ v ∈ stageMembers nodes edges stage,
            ∃ here there, pointOf spacing nodes edges u = some here ∧
              pointOf spacing nodes edges v = some there ∧
                (here.2 < there.2 ↔ rowOf nodes edges u < rowOf nodes edges v) := by
  refine ⟨rowsFollowParents hids hacyclic, ?_⟩
  intro K _ _ _ spacing hgap stage u hu v hv
  refine ⟨_, _, pointOf_of_mem hids spacing hu, pointOf_of_mem hids spacing hv, ?_⟩
  rw [gridPoint, gridPoint, add_lt_add_iff_left, mul_lt_mul_iff_left₀ hgap, Nat.cast_lt]

/-- Three children: the first of the second parent, the second of the first parent, and the third of
the first parent once and of the second twice. -/
theorem rows_follow_crossed_parents :
    let nodes := Stage.sketchedSteps ["p1", "p2", "c1", "c2", "c3"]
    let edges := Stage.sketchedEdges [("p2", "c1"), ("p1", "c2"), ("p1", "c3"), ("p2", "c3"),
      ("p2", "c3")]
    Acyclic (arrows nodes edges) ∧ nodes.map (fun node => rowOf nodes edges node.id) =
        [0, 1, 2, 0, 1] ∧ RowsFollowParents nodes edges := by
  intro nodes edges
  have hids : (nodes.map Node.id).Nodup := by decide
  let rank (id : String) : ℕ := if id = "p1" ∨ id = "p2" then 0 else 1
  have hclimbs : ∀ arrow ∈ arrows nodes edges, rank arrow.1 < rank arrow.2 := by decide +kernel
  have hacyclic : Acyclic (arrows nodes edges) :=
    acyclic_of_rank rank fun a b hstep => hclimbs (a, b) hstep
  exact ⟨hacyclic, by decide +kernel, (rows_follow_parents hids hacyclic).1⟩

end Rows

end FlowGraph.Layout
