/-
# Columns

The columns of a layout are filled from left to right, each sorted by ranks that the columns before
it have overwritten. What the loop leaves behind is therefore told column by column: its nodes are
those of its stage, and they ascend by the mean of their parents' ranks and then by their own, where
the rank of a node further left is its final row and the rank of any other node is still its place
among all nodes. From this the rows of the slots are read off.
-/

import FlowGraph.Layout
import FlowGraph.Proofs.Depth
import Mathlib.Algebra.BigOperators.Ring.Finset
import Mathlib.Algebra.Order.Field.Basic
import Mathlib.Algebra.Order.Field.Rat
import Mathlib.Data.Prod.Lex

namespace FlowGraph.Layout

open Stage (entry)

/-! ## The order within a column -/

/-- The mean of the ranks of some nodes, parallel mentions counted separately. -/
def mean (rank : String → ℕ) (ids : List String) : ℚ :=
  (ids.map fun id => (rank id : ℚ)).sum / ids.length

/-- The mean that decides the row of a node: of the ranks of its parents, and of its own rank if it
has none. -/
def centre (parentsOf : String → List String) (rank : String → ℕ) (id : String) : ℚ :=
  if parentsOf id = [] then rank id else mean rank (parentsOf id)

/-- What nodes of a column are ordered by. -/
def standing (parentsOf : String → List String) (rank : String → ℕ) (id : String) : ℚ ×ₗ ℕ :=
  toLex (centre parentsOf rank id, rank id)

section Order

variable {parentsOf : String → List String} {ranks : Ranks} {rank rank' : String → ℕ}
  {a b id : String}

theorem pull_eq (parentsOf : String → List String) (ranks : Ranks) (id : String) :
    pull parentsOf ranks id =
      if parentsOf id = [] then (rankOf ranks id, 1)
      else (((parentsOf id).map (rankOf ranks)).sum, (parentsOf id).length) := by
  unfold pull
  cases parentsOf id <;> rfl

theorem pull_pos (parentsOf : String → List String) (ranks : Ranks) (id : String) :
    0 < (pull parentsOf ranks id).2 := by
  rw [pull_eq]
  by_cases hnone : parentsOf id = []
  · rw [if_pos hnone]
    exact Nat.one_pos
  · rw [if_neg hnone]
    exact List.length_pos_iff.mpr hnone

theorem centre_eq_pull (parentsOf : String → List String) (ranks : Ranks) (id : String) :
    centre parentsOf (rankOf ranks) id =
      ((pull parentsOf ranks id).1 : ℚ) / (pull parentsOf ranks id).2 := by
  rw [centre, pull_eq]
  by_cases hnone : parentsOf id = []
  · rw [if_pos hnone, if_pos hnone, Nat.cast_one, div_one]
  · rw [if_neg hnone, if_neg hnone, mean, Nat.cast_list_sum, List.map_map]
    rfl

/-- The comparison of two nodes of a column, which avoids division, compares means all the same. -/
theorem standsBefore_iff :
    standsBefore parentsOf ranks a b = true ↔
      standing parentsOf (rankOf ranks) a ≤ standing parentsOf (rankOf ranks) b := by
  have ha : (0 : ℚ) < (pull parentsOf ranks a).2 := by exact_mod_cast pull_pos parentsOf ranks a
  have hb : (0 : ℚ) < (pull parentsOf ranks b).2 := by exact_mod_cast pull_pos parentsOf ranks b
  rw [standing, standing, Prod.Lex.toLex_le_toLex, centre_eq_pull, centre_eq_pull,
    div_lt_div_iff₀ ha hb, div_eq_div_iff ha.ne' hb.ne']
  simp only [standsBefore, Bool.or_eq_true, Bool.and_eq_true, decide_eq_true_eq, beq_iff_eq]
  norm_cast

theorem mean_congr {ids : List String} (hranks : ∀ id ∈ ids, rank id = rank' id) :
    mean rank ids = mean rank' ids := by
  unfold mean
  rw [List.map_congr_left fun id hid => congrArg Nat.cast (hranks id hid)]

theorem standing_congr (hparents : ∀ parent ∈ parentsOf id, rank parent = rank' parent)
    (hid : rank id = rank' id) : standing parentsOf rank id = standing parentsOf rank' id := by
  rw [standing, standing, centre, centre, mean_congr hparents, hid]

end Order

/-! ## Filling one column after another -/

theorem numbered_eq {column : List String} (hcolumn : column.Nodup) :
    numbered column = column.map fun id => (id, column.idxOf id) := by
  apply List.ext_getElem
  · simp [numbered]
  · intro i hi hi'
    simp [numbered, hcolumn.idxOf_getElem]

theorem get?_numbered {column : List String} (hcolumn : column.Nodup) (id : String) :
    Fields.get? (numbered column) id = if id ∈ column then some (column.idxOf id) else none := by
  rw [numbered_eq hcolumn, Fields.get?_map_pair]

/-- Numbering a column overwrites the ranks of its nodes and of no others. -/
theorem rankOf_setAll_numbered {column : List String} (hcolumn : column.Nodup) (ranks : Ranks)
    (id : String) :
    rankOf (Fields.setAll ranks (numbered column)) id =
      if id ∈ column then column.idxOf id else rankOf ranks id := by
  have hkeys : (Fields.keys (numbered column)).Nodup := by
    simpa [numbered_eq hcolumn, Fields.keys, Function.comp_def] using hcolumn
  rw [rankOf, Fields.get?_setAll_of_nodup hkeys, get?_numbered hcolumn]
  by_cases hid : id ∈ column
  · rw [if_pos hid, if_pos hid, Option.some_or, Option.getD_some]
  · rw [if_neg hid, if_neg hid, Option.none_or, rankOf]

/-- The column of a stage among those that are done, empty if there is none. -/
def columnOf (done : List (Int × List String)) (stage : Int) : List String :=
  ((done.find? fun column => column.1 = stage).map Prod.snd).getD []

section Fill

variable (stages : Fields Int) (order : List String) (parentsOf : String → List String)

/-- The rank of a node when some columns are done: its row in one of these, else its place among all
nodes. -/
def rankAfter (done : List (Int × List String)) (id : String) : ℕ :=
  if entry stages id ∈ done.map Prod.fst then (columnOf done (entry stages id)).idxOf id
  else order.idxOf id

/-- The nodes of a stage. -/
def members (stage : Int) : List String := order.filter fun id => entry stages id = stage

/-- What columns and ranks are while the columns are filled. The ranks tell which columns are done,
and each of these holds the nodes of its stage in the order that the columns before it gave. -/
structure Filled (columns : Columns) : Prop where
  ranks : ∀ id ∈ order, rankOf columns.ranks id = rankAfter stages order columns.done id
  sorted : ∀ front stage column back, columns.done = front ++ (stage, column) :: back →
    column.Perm (members stages order stage) ∧
      column.Pairwise fun a b =>
        standing parentsOf (rankAfter stages order front) a <
          standing parentsOf (rankAfter stages order front) b

variable {stages order parentsOf} {columns : Columns} {stage : Int} {column : List String}
  {done : List (Int × List String)}

theorem columnOf_append_of_mem {more : List (Int × List String)}
    (hstage : stage ∈ done.map Prod.fst) : columnOf (done ++ more) stage = columnOf done stage := by
  obtain ⟨pair, hpair, rfl⟩ := List.mem_map.mp hstage
  have hsome : (done.find? fun column => column.1 = pair.1).isSome :=
    List.find?_isSome.mpr ⟨pair, hpair, by simp⟩
  rw [columnOf, List.find?_append, Option.or_of_isSome hsome, columnOf]

theorem find?_eq_none (hnone : stage ∉ done.map Prod.fst) :
    (done.find? fun column => column.1 = stage) = none := by
  rw [List.find?_eq_none]
  intro pair hpair hsame
  exact hnone (List.mem_map.mpr ⟨pair, hpair, by simpa using hsame⟩)

theorem columnOf_eq_nil (hnone : stage ∉ done.map Prod.fst) : columnOf done stage = [] := by
  rw [columnOf, find?_eq_none hnone, Option.map_none, Option.getD_none]

theorem columnOf_append_cons (hfresh : stage ∉ done.map Prod.fst)
    (more : List (Int × List String)) :
    columnOf (done ++ (stage, column) :: more) stage = column := by
  simp [columnOf, List.find?_append, find?_eq_none hfresh]

theorem mem_members_iff {id : String} :
    id ∈ members stages order stage ↔ id ∈ order ∧ entry stages id = stage := by
  simp [members]

/-- Before the first column every rank is the place among all nodes. -/
theorem filled_start (horder : order.Nodup) :
    Filled stages order parentsOf { ranks := Fields.ofPairs (numbered order), done := [] } where
  ranks id hid := by
    rw [Fields.ofPairs, rankOf_setAll_numbered horder, if_pos hid]
    rfl
  sorted front stage column back hsplit := by simp at hsplit

/-- One more column changes the ranks of its own nodes. -/
theorem rankAfter_append (hfresh : stage ∉ done.map Prod.fst) (id : String) :
    rankAfter stages order (done ++ [(stage, column)]) id =
      if entry stages id = stage then column.idxOf id else rankAfter stages order done id := by
  have hdone : entry stages id ∈ (done ++ [(stage, column)]).map Prod.fst ↔
      entry stages id ∈ done.map Prod.fst ∨ entry stages id = stage := by
    rw [List.map_append, List.mem_append, List.map_singleton, List.mem_singleton]
  unfold rankAfter
  by_cases hstage : entry stages id = stage
  · rw [if_pos (hdone.mpr (Or.inr hstage)), if_pos hstage, hstage, columnOf_append_cons hfresh]
  · rw [if_neg hstage]
    by_cases hold : entry stages id ∈ done.map Prod.fst
    · rw [if_pos (hdone.mpr (Or.inl hold)), if_pos hold, columnOf_append_of_mem hold]
    · rw [if_neg hold, if_neg (fun hnew => (hdone.mp hnew).elim hold hstage)]

section Add

variable (hfilled : Filled stages order parentsOf columns)
  (hfresh : stage ∉ columns.done.map Prod.fst)
include hfilled hfresh

/-- The nodes of a new column have kept their places among all nodes until now, so no two of them
compare equal. -/
theorem Filled.injOn_standing : Set.InjOn (standing parentsOf (rankOf columns.ranks))
    {id | id ∈ members stages order stage} := by
  have hplace {id : String} (hid : id ∈ members stages order stage) :
      rankOf columns.ranks id = order.idxOf id := by
    obtain ⟨hlisted, hstage⟩ := mem_members_iff.mp hid
    rw [hfilled.ranks id hlisted, rankAfter, hstage, if_neg hfresh]
  intro a ha b hb heq
  have hrank : rankOf columns.ranks a = rankOf columns.ranks b :=
    (Prod.mk.inj (toLex_inj.mp heq)).2
  rw [hplace ha, hplace hb] at hrank
  exact (List.idxOf_inj (mem_members_iff.mp ha).1).mp hrank

/-- A new column ascends by the ranks that the columns before it have left. -/
theorem Filled.pairwise_column (horder : order.Nodup)
    (hparents : ∀ id, ∀ parent ∈ parentsOf id, parent ∈ order) :
    (Order.sortBy (standsBefore parentsOf columns.ranks) (members stages order stage)).Pairwise
      fun a b => standing parentsOf (rankAfter stages order columns.done) a <
        standing parentsOf (rankAfter stages order columns.done) b := by
  have hperm := Order.sortBy_perm (standsBefore parentsOf columns.ranks)
    (members stages order stage)
  have hranks {id : String}
      (hid : id ∈ Order.sortBy (standsBefore parentsOf columns.ranks)
        (members stages order stage)) :
      standing parentsOf (rankOf columns.ranks) id =
        standing parentsOf (rankAfter stages order columns.done) id := by
    apply standing_congr
    · exact fun parent hparent => hfilled.ranks parent (hparents id parent hparent)
    · exact hfilled.ranks id (mem_members_iff.mp (hperm.mem_iff.mp hid)).1
  have hmembers : (members stages order stage).Nodup := horder.filter _
  have hcompare (a b : String) : standsBefore parentsOf columns.ranks a b = true ↔
      standing parentsOf (rankOf columns.ranks) a ≤ standing parentsOf (rankOf columns.ranks) b :=
    standsBefore_iff
  refine (Order.pairwise_sortBy_lt hcompare hmembers (hfilled.injOn_standing hfresh)).imp_of_mem ?_
  intro a b ha hb hlt
  rwa [hranks ha, hranks hb] at hlt

/-- One more column keeps the account. -/
theorem Filled.add (horder : order.Nodup)
    (hparents : ∀ id, ∀ parent ∈ parentsOf id, parent ∈ order) :
    Filled stages order parentsOf
      (columns.add parentsOf stage (members stages order stage)) := by
  have hperm := Order.sortBy_perm (standsBefore parentsOf columns.ranks)
    (members stages order stage)
  have hcolumn := hperm.nodup_iff.mpr (horder.filter _)
  constructor
  · intro id hid
    simp only [Columns.add]
    rw [rankOf_setAll_numbered hcolumn, rankAfter_append hfresh, hfilled.ranks id hid]
    apply if_congr _ rfl rfl
    rw [hperm.mem_iff, mem_members_iff, and_iff_right hid]
  · intro front stage' column back hsplit
    simp only [Columns.add] at hsplit
    -- the split is at the new column or in front of it
    rcases List.eq_nil_or_concat back with rfl | ⟨back, last, rfl⟩
    · obtain ⟨rfl, hlast⟩ := List.append_inj' hsplit rfl
      obtain ⟨rfl, rfl⟩ := Prod.mk.inj (List.singleton_inj.mp hlast)
      exact ⟨hperm, hfilled.pairwise_column hfresh horder hparents⟩
    · rw [List.concat_eq_append, ← List.cons_append, ← List.append_assoc] at hsplit
      exact hfilled.sorted front stage' column back (List.append_inj' hsplit rfl).1

end Add

/-- All columns are filled one after another. -/
theorem Filled.foldl (hfilled : Filled stages order parentsOf columns) (horder : order.Nodup)
    (hparents : ∀ id, ∀ parent ∈ parentsOf id, parent ∈ order) {levels : List Int}
    (hfresh : (columns.done.map Prod.fst ++ levels).Nodup) :
    let final := levels.foldl
      (fun columns level => columns.add parentsOf level (members stages order level)) columns
    Filled stages order parentsOf final ∧
      final.done.map Prod.fst = columns.done.map Prod.fst ++ levels := by
  induction levels generalizing columns with
  | nil => exact ⟨hfilled, (List.append_nil _).symm⟩
  | cons level rest ih =>
      have hlevel : level ∉ columns.done.map Prod.fst := fun hold =>
        List.disjoint_of_nodup_append hfresh hold List.mem_cons_self
      have hdone : (columns.add parentsOf level (members stages order level)).done.map Prod.fst =
          columns.done.map Prod.fst ++ [level] := by
        simp [Columns.add]
      have hsplit : columns.done.map Prod.fst ++ level :: rest =
          columns.done.map Prod.fst ++ [level] ++ rest := by
        simp
      rw [hsplit, ← hdone] at hfresh ⊢
      exact ih (hfilled.add hlevel horder hparents) hfresh

end Fill

/-! ## All columns -/

/-- Dropping repeats from numbers that ascend leaves them climbing. -/
theorem pairwise_distinctInts {numbers : List Int} (hascending : numbers.Pairwise (· ≤ ·)) :
    (distinctInts numbers).Pairwise (· < ·) ∧ ∀ n, n ∈ distinctInts numbers ↔ n ∈ numbers := by
  have hrun (seen : List Int) (hseen : seen.Pairwise (· < ·))
      (hall : (seen ++ numbers).Pairwise (· ≤ ·)) :
      let final := numbers.foldl
        (fun seen n => if seen.contains n then seen else seen ++ [n]) seen
      final.Pairwise (· < ·) ∧ ∀ n, n ∈ final ↔ n ∈ seen ∨ n ∈ numbers := by
    induction numbers generalizing seen with
    | nil => simpa using hseen
    | cons number rest ih =>
        rw [List.foldl_cons]
        by_cases hmem : number ∈ seen
        · have hshorter : (seen ++ rest).Sublist (seen ++ number :: rest) :=
            (List.sublist_cons_self number rest).append_left seen
          obtain ⟨hclimbs, hiff⟩ := ih hascending.tail seen hseen (hall.sublist hshorter)
          rw [if_pos (List.contains_iff_mem.mpr hmem)]
          refine ⟨hclimbs, fun n => ?_⟩
          rw [hiff, List.mem_cons]
          refine or_congr_right' fun hn => (or_iff_right ?_).symm
          exact fun hsame => hn (hsame ▸ hmem)
        · have hassoc : seen ++ number :: rest = seen ++ [number] ++ rest := by simp
          have hgrown : (seen ++ [number]).Pairwise (· < ·) := by
            refine List.pairwise_append.mpr ⟨hseen, List.pairwise_singleton _ _, ?_⟩
            intro a ha b hb
            obtain rfl := List.mem_singleton.mp hb
            have hle := (List.pairwise_append.mp hall).2.2 a ha b List.mem_cons_self
            exact lt_of_le_of_ne hle (ne_of_mem_of_not_mem ha hmem)
          obtain ⟨hclimbs, hiff⟩ := ih hascending.tail (seen ++ [number]) hgrown (hassoc ▸ hall)
          rw [if_neg (mt List.contains_iff_mem.mp hmem)]
          refine ⟨hclimbs, fun n => ?_⟩
          rw [hiff, List.mem_append, List.mem_singleton, List.mem_cons, or_assoc]
  simpa [distinctInts] using hrun [] List.Pairwise.nil hascending

section Ranked

variable {stages : Fields Int} {ids : List String}

theorem ranked_perm (stages : Fields Int) (ids : List String) : (ranked stages ids).Perm ids :=
  Order.sortBy_perm _ _

/-- The nodes are ranked by stage, then by place in the document. -/
theorem pairwise_ranked (hids : ids.Nodup) (stages : Fields Int) :
    (ranked stages ids).Pairwise fun a b =>
      toLex (entry stages a, ids.idxOf a) < toLex (entry stages b, ids.idxOf b) := by
  have hcompare (a b : String) :
      decide (entry stages a < entry stages b ||
          (entry stages a == entry stages b &&
            Stage.lastIndex ids a ≤ Stage.lastIndex ids b)) = true ↔
        toLex (entry stages a, Stage.lastIndex ids a) ≤
          toLex (entry stages b, Stage.lastIndex ids b) := by
    simp [Prod.Lex.toLex_le_toLex]
  have hkey : Set.InjOn (fun id => toLex (entry stages id, Stage.lastIndex ids id))
      {id | id ∈ ids} := by
    intro a ha b hb heq
    have hindex : Stage.lastIndex ids a = Stage.lastIndex ids b :=
      (Prod.mk.inj (toLex_inj.mp heq)).2
    rw [Stage.lastIndex_eq_idxOf hids ha, Stage.lastIndex_eq_idxOf hids hb] at hindex
    exact (List.idxOf_inj ha).mp hindex
  refine (Order.pairwise_sortBy_lt hcompare hids hkey).imp_of_mem ?_
  intro a b ha hb hlt
  have hmem {id : String} (hid : id ∈ ranked stages ids) : id ∈ ids :=
    (ranked_perm stages ids).mem_iff.mp hid
  rwa [Stage.lastIndex_eq_idxOf hids (hmem ha), Stage.lastIndex_eq_idxOf hids (hmem hb)] at hlt

/-- Among the nodes of one stage the rank is the place in the document. -/
theorem idxOf_ranked_lt_iff (hids : ids.Nodup) {a b : String} (ha : a ∈ ids) (hb : b ∈ ids)
    (hstage : entry stages a = entry stages b) :
    (ranked stages ids).idxOf a < (ranked stages ids).idxOf b ↔ ids.idxOf a < ids.idxOf b := by
  have hperm := ranked_perm stages ids
  rw [Order.idxOf_lt_idxOf_iff (pairwise_ranked hids stages) (hperm.mem_iff.mpr ha)
    (hperm.mem_iff.mpr hb), Prod.Lex.toLex_lt_toLex, hstage]
  simp

end Ranked

section Columns

variable {stages : Fields Int} {ids : List String} {edges : List Edge} {final : Columns}

/-- The rank of a node when the column of a stage is sorted: the final row of a node further left,
and the place among all nodes of any other. -/
def rankAt (stages : Fields Int) (ids : List String) (done : List (Int × List String))
    (stage : Int) (id : String) : ℕ :=
  if entry stages id < stage then (columnOf done (entry stages id)).idxOf id
  else (ranked stages ids).idxOf id

/-- What the columns of a graph are: each holds the nodes of its stage, in the order that the final
rows of the columns further left give. -/
structure AreColumns (stages : Fields Int) (ids : List String) (edges : List Edge)
    (done : List (Int × List String)) : Prop where
  perm : ∀ stage, (columnOf done stage).Perm (members stages ids stage)
  climbs : ∀ stage, (columnOf done stage).Pairwise fun a b =>
    standing (parents stages edges) (rankAt stages ids done stage) a <
      standing (parents stages edges) (rankAt stages ids done stage) b

theorem mem_of_mem_parents (hstaged : ∀ id, Fields.has stages id = true → id ∈ ids)
    {id parent : String} (hparent : parent ∈ parents stages edges id) : parent ∈ ids := by
  obtain ⟨edge, hedge, rfl⟩ := List.mem_map.mp hparent
  simp only [List.mem_filter, Bool.and_eq_true] at hedge
  exact hstaged _ hedge.2.1.2

/-- The loop fills the columns, one for each stage that has nodes, from left to right. -/
theorem exists_filled (hids : ids.Nodup) (hstaged : ∀ id, Fields.has stages id = true → id ∈ ids)
    (edges : List Edge) :
    ∃ final : Columns, final.done = columns stages ids edges ∧
      Filled stages (ranked stages ids) (parents stages edges) final ∧
      (final.done.map Prod.fst).Pairwise (· < ·) ∧
      ∀ stage, stage ∈ final.done.map Prod.fst ↔ ∃ id ∈ ids, entry stages id = stage := by
  have hperm := ranked_perm stages ids
  have horder : (ranked stages ids).Nodup := hperm.nodup_iff.mpr hids
  have hparents : ∀ id, ∀ parent ∈ parents stages edges id, parent ∈ ranked stages ids :=
    fun id parent hparent => hperm.mem_iff.mpr (mem_of_mem_parents hstaged hparent)
  have hascending : ((ranked stages ids).map (entry stages)).Pairwise (· ≤ ·) := by
    refine List.pairwise_map.mpr ((pairwise_ranked hids stages).imp fun hlt => ?_)
    exact (Prod.Lex.toLex_lt_toLex.mp hlt).elim le_of_lt fun heq => heq.1.le
  obtain ⟨hclimbs, hlevels⟩ := pairwise_distinctInts hascending
  have hfresh : ([] ++ distinctInts ((ranked stages ids).map (entry stages))).Nodup :=
    hclimbs.imp LT.lt.ne
  obtain ⟨final, hfinal, hfilled, hdone⟩ : ∃ final : Columns,
      final.done = columns stages ids edges ∧
        Filled stages (ranked stages ids) (parents stages edges) final ∧
        final.done.map Prod.fst = distinctInts ((ranked stages ids).map (entry stages)) :=
    ⟨_, rfl, (filled_start horder).foldl horder hparents hfresh⟩
  refine ⟨final, hfinal, hfilled, hdone ▸ hclimbs, fun stage => ?_⟩
  rw [hdone, hlevels, List.mem_map]
  exact exists_congr fun id => and_congr_left' hperm.mem_iff

/-- The columns that are done when the column of a stage is sorted are those further left, so the
ranks that sort it are final rows there. -/
theorem rankAfter_eq_rankAt {front back : List (Int × List String)} {stage : Int}
    {column : List String}
    (hclimbs : ((front ++ (stage, column) :: back).map Prod.fst).Pairwise (· < ·))
    (hlevels : ∀ id ∈ ids,
      entry stages id ∈ (front ++ (stage, column) :: back).map Prod.fst) {id : String}
    (hid : id ∈ ids) :
    rankAfter stages (ranked stages ids) front id =
      rankAt stages ids (front ++ (stage, column) :: back) stage id := by
  rw [List.map_append, List.map_cons, List.pairwise_append, List.pairwise_cons] at hclimbs
  have hfront : entry stages id ∈ front.map Prod.fst ↔ entry stages id < stage := by
    refine ⟨fun hmem => hclimbs.2.2 _ hmem _ List.mem_cons_self, fun hlt => ?_⟩
    have hmem := hlevels id hid
    rw [List.map_append, List.map_cons, List.mem_append, List.mem_cons] at hmem
    rcases hmem with hfront | hsame | hback
    · exact hfront
    · exact absurd hsame hlt.ne
    · exact absurd hlt (hclimbs.2.1.1 _ hback).asymm
  unfold rankAfter rankAt
  by_cases hlt : entry stages id < stage
  · rw [if_pos (hfront.mpr hlt), if_pos hlt, columnOf_append_of_mem (hfront.mpr hlt)]
  · rw [if_neg (mt hfront.mp hlt), if_neg hlt]

theorem exists_split {done : List (Int × List String)} {stage : Int}
    (hclimbs : (done.map Prod.fst).Pairwise (· < ·)) (hstage : stage ∈ done.map Prod.fst) :
    ∃ front back, done = front ++ (stage, columnOf done stage) :: back := by
  obtain ⟨⟨level, column⟩, hmem, rfl⟩ := List.mem_map.mp hstage
  obtain ⟨front, back, rfl⟩ := List.mem_iff_append.mp hmem
  rw [List.map_append, List.pairwise_append] at hclimbs
  have hfresh : level ∉ front.map Prod.fst :=
    fun hold => lt_irrefl _ (hclimbs.2.2 _ hold _ List.mem_cons_self)
  exact ⟨front, back, by rw [columnOf_append_cons hfresh]⟩

section Final

variable (hfilled : Filled stages (ranked stages ids) (parents stages edges) final)
  (hclimbs : (final.done.map Prod.fst).Pairwise (· < ·))
  (hlevels : ∀ stage, stage ∈ final.done.map Prod.fst ↔ ∃ id ∈ ids, entry stages id = stage)
include hfilled hclimbs hlevels

/-- The column of a stage holds its nodes; a stage without nodes has no column. -/
theorem Filled.columnOf_perm (stage : Int) :
    (columnOf final.done stage).Perm (members stages ids stage) := by
  by_cases hstage : stage ∈ final.done.map Prod.fst
  · obtain ⟨front, back, hdone⟩ := exists_split hclimbs hstage
    exact (hfilled.sorted front stage _ back hdone).1.trans ((ranked_perm stages ids).filter _)
  · have hempty : members stages ids stage = [] := by
      rw [List.eq_nil_iff_forall_not_mem]
      intro id hid
      exact hstage ((hlevels stage).mpr ⟨id, mem_members_iff.mp hid⟩)
    rw [columnOf_eq_nil hstage, hempty]

/-- In the end every column ascends by final rows. -/
theorem Filled.pairwise_columnOf (hstaged : ∀ id, Fields.has stages id = true → id ∈ ids)
    (stage : Int) :
    (columnOf final.done stage).Pairwise fun a b =>
      standing (parents stages edges) (rankAt stages ids final.done stage) a <
        standing (parents stages edges) (rankAt stages ids final.done stage) b := by
  by_cases hstage : stage ∈ final.done.map Prod.fst
  · obtain ⟨front, back, hdone⟩ := exists_split hclimbs hstage
    have hsorted := (hfilled.sorted front stage _ back hdone).2
    have hranks : ∀ id ∈ ids, rankAfter stages (ranked stages ids) front id =
        rankAt stages ids final.done stage id := by
      have hlisted : ∀ id ∈ ids, entry stages id ∈ final.done.map Prod.fst :=
        fun id hid => (hlevels _).mpr ⟨id, hid, rfl⟩
      rw [hdone] at hclimbs hlisted ⊢
      exact fun id hid => rankAfter_eq_rankAt hclimbs hlisted hid
    have hstanding {id : String} (hid : id ∈ columnOf final.done stage) :
        standing (parents stages edges) (rankAfter stages (ranked stages ids) front) id =
          standing (parents stages edges) (rankAt stages ids final.done stage) id := by
      have hmem := (hfilled.columnOf_perm hclimbs hlevels stage).mem_iff.mp hid
      apply standing_congr
      · exact fun parent hparent => hranks parent (mem_of_mem_parents hstaged hparent)
      · exact hranks id (mem_members_iff.mp hmem).1
    refine hsorted.imp_of_mem fun {a b} ha hb hlt => ?_
    rwa [hstanding ha, hstanding hb] at hlt
  · rw [columnOf_eq_nil hstage]
    exact List.Pairwise.nil

end Final

/-- The columns that the loop leaves are the columns of the graph. -/
theorem areColumns_columns (hids : ids.Nodup)
    (hstaged : ∀ id, Fields.has stages id = true → id ∈ ids) (edges : List Edge) :
    AreColumns stages ids edges (columns stages ids edges) := by
  obtain ⟨final, hfinal, hfilled, hclimbs, hlevels⟩ := exists_filled hids hstaged edges
  rw [← hfinal]
  exact ⟨hfilled.columnOf_perm hclimbs hlevels, hfilled.pairwise_columnOf hclimbs hlevels hstaged⟩

end Columns

/-! ## Slots -/

section Slots

variable {nodes : List Node} {edges : List Edge} {id : String}

theorem has_compute_iff (hids : (nodes.map Node.id).Nodup) :
    Fields.has (Stage.compute nodes edges) id = true ↔ id ∈ Stage.stagedIds nodes := by
  rw [Fields.has, Option.isSome_iff_ne_none, Ne, Fields.get?_eq_none_iff, not_not,
    Stage.keys_compute hids]

/-- Just the nodes that are no annotations have a stage. -/
theorem filter_has_compute (hids : (nodes.map Node.id).Nodup) (edges : List Edge) :
    (nodes.map Node.id).filter (Fields.has (Stage.compute nodes edges)) =
      Stage.stagedIds nodes := by
  rw [List.filter_map, Stage.stagedIds]
  congr 1
  apply List.filter_congr
  intro node hnode
  rw [Function.comp_apply, Bool.eq_iff_iff, has_compute_iff hids,
    Stage.mem_stagedIds_iff hids hnode, Bool.not_eq_true']

/-- The columns of a graph. -/
def graphColumns (nodes : List Node) (edges : List Edge) : List (Int × List String) :=
  columns (Stage.compute nodes edges) (Stage.stagedIds nodes) edges

theorem areColumns_graphColumns (hids : (nodes.map Node.id).Nodup) (edges : List Edge) :
    AreColumns (Stage.compute nodes edges) (Stage.stagedIds nodes) edges
      (graphColumns nodes edges) := by
  apply areColumns_columns (Stage.nodup_stagedIds hids)
  exact fun id hhas => (has_compute_iff hids).mp hhas

/-- The slot that a layout gives to the node with an id. -/
def slotOf (nodes : List Node) (edges : List Edge) (id : String) : Option Slot :=
  (Fields.get? ((nodes.map Node.id).zip (slots nodes edges)) id).join

/-- The row that a layout gives to the node with an id, zero if it has none. -/
def rowOf (nodes : List Node) (edges : List Edge) (id : String) : ℕ :=
  ((slotOf nodes edges id).map Slot.row).getD 0

/-- The slot of a node in the column of a stage. -/
def slotIn (done : List (Int × List String)) (id : String) (stage : Int) : Slot :=
  { stage, row := (columnOf done stage).idxOf id, height := (columnOf done stage).length }

theorem slots_eq (hids : (nodes.map Node.id).Nodup) (edges : List Edge) :
    slots nodes edges = nodes.map fun node =>
      (Fields.get? (Stage.compute nodes edges) node.id).map
        (slotIn (graphColumns nodes edges) node.id) := by
  simp only [slots, filter_has_compute hids]
  rfl

/-- A stage makes a slot of an id. -/
theorem slotOf_eq (hids : (nodes.map Node.id).Nodup) (edges : List Edge) (id : String) :
    slotOf nodes edges id = (Fields.get? (Stage.compute nodes edges) id).map
      (slotIn (graphColumns nodes edges) id) := by
  have hpairs : (nodes.map Node.id).zip (slots nodes edges) =
      (nodes.map Node.id).map fun id => (id, (Fields.get? (Stage.compute nodes edges) id).map
        (slotIn (graphColumns nodes edges) id)) := by
    rw [slots_eq hids, List.zip_map', List.map_map]
    rfl
  rw [slotOf, hpairs, Fields.get?_map_pair]
  by_cases hid : id ∈ nodes.map Node.id
  · rw [if_pos hid, Option.join_some]
  · have hunstaged : id ∉ Fields.keys (Stage.compute nodes edges) := by
      rw [Stage.keys_compute hids, ← filter_has_compute hids edges]
      exact mt List.mem_of_mem_filter hid
    rw [if_neg hid, Option.join_none, Fields.get?_eq_none_iff.mpr hunstaged, Option.map_none]

theorem slotOf_of_mem (hids : (nodes.map Node.id).Nodup) (hid : id ∈ Stage.stagedIds nodes) :
    slotOf nodes edges id =
      some (slotIn (graphColumns nodes edges) id (entry (Stage.compute nodes edges) id)) := by
  rw [← Stage.keys_compute hids edges] at hid
  rw [slotOf_eq hids, Stage.get?_eq_some_entry hid, Option.map_some]

theorem slotOf_of_not_mem (hids : (nodes.map Node.id).Nodup) (hid : id ∉ Stage.stagedIds nodes) :
    slotOf nodes edges id = none := by
  rw [← Stage.keys_compute hids edges] at hid
  rw [slotOf_eq hids, Fields.get?_eq_none_iff.mpr hid, Option.map_none]

/-- The nodes of a graph at a stage, in the order of the document. -/
def stageMembers (nodes : List Node) (edges : List Edge) (stage : Int) : List String :=
  members (Stage.compute nodes edges) (Stage.stagedIds nodes) stage

theorem mem_stageMembers_iff {stage : Int} :
    id ∈ stageMembers nodes edges stage ↔
      id ∈ Stage.stagedIds nodes ∧ entry (Stage.compute nodes edges) id = stage :=
  mem_members_iff

theorem mem_stageMembers (hid : id ∈ Stage.stagedIds nodes) (edges : List Edge) :
    id ∈ stageMembers nodes edges (entry (Stage.compute nodes edges) id) :=
  mem_stageMembers_iff.mpr ⟨hid, rfl⟩

theorem columnOf_graphColumns_perm (hids : (nodes.map Node.id).Nodup) (edges : List Edge)
    (stage : Int) :
    (columnOf (graphColumns nodes edges) stage).Perm (stageMembers nodes edges stage) :=
  (areColumns_graphColumns hids edges).perm stage

theorem rowOf_of_mem (hids : (nodes.map Node.id).Nodup) {stage : Int}
    (hid : id ∈ stageMembers nodes edges stage) :
    rowOf nodes edges id = (columnOf (graphColumns nodes edges) stage).idxOf id := by
  obtain ⟨hstaged, rfl⟩ := mem_stageMembers_iff.mp hid
  rw [rowOf, slotOf_of_mem hids hstaged, Option.map_some, Option.getD_some, slotIn]

/-- The nodes of a stage take its rows, each once. -/
theorem map_rowOf_stageMembers_perm (hids : (nodes.map Node.id).Nodup) (edges : List Edge)
    (stage : Int) :
    ((stageMembers nodes edges stage).map (rowOf nodes edges)).Perm
      (List.range (stageMembers nodes edges stage).length) := by
  have hperm := columnOf_graphColumns_perm hids edges stage
  have hcolumn : (columnOf (graphColumns nodes edges) stage).Nodup :=
    hperm.nodup_iff.mpr ((Stage.nodup_stagedIds hids).filter _)
  have hnumbers : (columnOf (graphColumns nodes edges) stage).map
      (columnOf (graphColumns nodes edges) stage).idxOf =
        List.range (columnOf (graphColumns nodes edges) stage).length := by
    apply List.ext_getElem
    · simp
    · intro i hi hi'
      simp [hcolumn.idxOf_getElem]
  rw [List.map_congr_left fun id hid => rowOf_of_mem hids hid, ← hperm.length_eq, ← hnumbers]
  exact hperm.symm.map _

theorem rowOf_injOn (hids : (nodes.map Node.id).Nodup) (edges : List Edge) (stage : Int) :
    Set.InjOn (rowOf nodes edges) {id | id ∈ stageMembers nodes edges stage} := by
  intro a ha b hb hrow
  rw [rowOf_of_mem hids ha, rowOf_of_mem hids hb] at hrow
  exact (List.idxOf_inj ((columnOf_graphColumns_perm hids edges stage).mem_iff.mpr ha)).mp hrow

end Slots

end FlowGraph.Layout
