/-
# Stages are longest walks

While the sweep runs, the stage of every node is the length of a walk that ends there, and a node
that is done stands below the targets of its links. Where no cycle stands behind a node, all the
nodes before it get done, so no walk to it is longer than its stage. The nodes that are left over
are settled afterwards in node order: each is raised above the sources of its links, and is not
touched again. What this module claims of nodes behind a cycle is only that they stand above the
sources that were settled before them.
-/

import FlowGraph.Proofs.Sorting
import FlowGraph.Proofs.Sweep
import Mathlib.Order.Bounds.Basic

namespace FlowGraph

open Arrows

namespace Stage

variable {ids done rest : List String} {links : List (String × String)}

theorem get?_eq_some_entry {table : Fields Int} {key : String} (hkey : key ∈ Fields.keys table) :
    Fields.get? table key = some (entry table key) := by
  cases hfound : Fields.get? table key with
  | none => exact absurd hkey (Fields.get?_eq_none_iff.mp hfound)
  | some held => rw [entry, hfound, Option.getD_some]

namespace Sweep

/-- How the stages of a sweep relate to the nodes done and to the targets in hand, which are about
to be raised to the given depth. -/
structure Graded (ids : List String) (links : List (String × String))
    (done inHand : List String) (depth : Int) (sweep : Sweep) : Prop where
  keys : Fields.keys sweep.stage = ids
  walked : ∀ id, ∃ length ∈ walkLengths links id, entry sweep.stage id = length
  told : ∀ source ∈ done, ∀ target, Leads links source target →
    entry sweep.stage source < entry sweep.stage target ∨
      target ∈ inHand ∧ entry sweep.stage source < depth

/-- Before the first step every stage is zero, the length of the walk that stays where it is. -/
theorem graded_start (hids : ids.Nodup) (depth : Int) :
    Graded ids links [] [] depth (start ids links) where
  keys := by
    have hpairs : Fields.keys (ids.map fun id => (id, (0 : Int))) = ids := by
      simp [Fields.keys, Function.comp_def]
    rw [start, Fields.ofPairs_eq_self (hpairs.symm ▸ hids), hpairs]
  walked id := by
    refine ⟨0, ⟨id, Walk.refl id⟩, ?_⟩
    rw [start, entry, Fields.get?_ofPairs]
    cases hfound : Fields.get? (ids.map fun id => (id, (0 : Int))).reverse id with
    | none => rfl
    | some held =>
        have hpair := Fields.mem_of_get? hfound
        simp only [List.mem_reverse, List.mem_map, Prod.mk.injEq] at hpair
        obtain ⟨-, -, -, rfl⟩ := hpair
        rfl
  told source hsource := absurd hsource List.not_mem_nil

/-- Following a link keeps the stages graded: only the target changes its stage, and it is not
done. -/
theorem Graded.follow {sweep : Sweep} {target : String} {depth : Int}
    (hgraded : Graded ids links done (target :: rest) depth sweep)
    (hsweep : Consistent ids links done (target :: rest) sweep) (htarget : target ∈ ids)
    (hdepth : ∃ length ∈ walkLengths links target, depth = length) :
    Graded ids links done rest depth (sweep.follow depth target) := by
  have hstage (id : String) : entry (sweep.follow depth target).stage id =
      if target = id then max (entry sweep.stage target) depth else entry sweep.stage id :=
    entry_set _ _ _ _
  refine ⟨?_, fun id => ?_, fun source hsource next hstep => ?_⟩
  · rw [Sweep.follow, Fields.keys_set, hgraded.keys, if_pos htarget]
  · rw [hstage]
    by_cases hsame : target = id
    · subst hsame
      rw [if_pos rfl]
      rcases max_choice (entry sweep.stage target) depth with hold | hnew
      · rw [hold]
        exact hgraded.walked target
      · rw [hnew]
        exact hdepth
    · rw [if_neg hsame]
      exact hgraded.walked id
  · have hdone : target ≠ source := by
      rintro rfl
      exact hsweep.not_mem_of_inHand htarget (List.mem_append_left _ hsource)
    rw [hstage, hstage, if_neg hdone]
    have htold := hgraded.told source hsource next hstep
    by_cases hsame : target = next
    · subst hsame
      rw [if_pos rfl]
      apply Or.inl
      rcases htold with hbelow | ⟨-, hbelow⟩
      · exact lt_max_of_lt_left hbelow
      · exact lt_max_of_lt_right hbelow
    · rw [if_neg hsame]
      rcases htold with hbelow | ⟨hinHand, hbelow⟩
      · exact Or.inl hbelow
      · exact Or.inr ⟨(List.mem_cons.mp hinHand).resolve_left (Ne.symm hsame), hbelow⟩

theorem Graded.foldl_follow {sweep : Sweep} {inHand : List String} {depth : Int}
    (hgraded : Graded ids links done inHand depth sweep)
    (hsweep : Consistent ids links done inHand sweep) (hlisted : ∀ id ∈ inHand, id ∈ ids)
    (hdepth : ∀ id ∈ inHand, ∃ length ∈ walkLengths links id, depth = length) :
    Graded ids links done [] depth (inHand.foldl (Sweep.follow depth) sweep) := by
  induction inHand generalizing sweep with
  | nil => exact hgraded
  | cons target rest ih =>
      obtain ⟨htarget, hrest⟩ := List.forall_mem_cons.mp hlisted
      obtain ⟨hreached, hreachedRest⟩ := List.forall_mem_cons.mp hdepth
      exact ih (hgraded.follow hsweep htarget hreached) (hsweep.follow htarget depth) hrest
        hreachedRest

/-- Taking a node off the queue raises the targets of its links above it. -/
theorem Graded.advance {sweep : Sweep} {current : String} {more : List String} {depth : Int}
    (hgraded : Graded ids links done [] depth sweep) (hsweep : Consistent ids links done [] sweep)
    (hqueue : sweep.queue = current :: more) (hlinks : ∀ link ∈ links, link.2 ∈ ids) :
    Graded ids links (current :: done) [] (entry sweep.stage current + 1)
      (sweep.advance links current more) := by
  have htaken : Graded ids links (current :: done) (successors links current)
      (entry sweep.stage current + 1) { sweep with queue := more } := by
    refine ⟨hgraded.keys, hgraded.walked, fun source hsource target hstep => ?_⟩
    rcases List.mem_cons.mp hsource with rfl | hdone
    · exact Or.inr ⟨mem_successors_iff.mpr hstep, Int.lt_succ _⟩
    · have htold := hgraded.told source hdone target hstep
      exact Or.inl (htold.resolve_right fun hinHand => List.not_mem_nil hinHand.1)
  apply htaken.foldl_follow (hsweep.take hqueue)
  · intro target htarget
    exact hlinks _ (mem_successors_iff.mp htarget)
  · intro target htarget
    obtain ⟨length, ⟨first, hwalk⟩, hlength⟩ := hgraded.walked current
    refine ⟨length + 1, ⟨first, hwalk.tail (mem_successors_iff.mp htarget)⟩, ?_⟩
    rw [hlength]
    rfl

/-- After the sweep every accessible node stands below the targets of its links. -/
theorem exists_graded_finish (hids : ids.Nodup)
    (hlinks : ∀ link ∈ links, link.1 ∈ ids ∧ link.2 ∈ ids) :
    ∃ done depth, Graded ids links done [] depth (finish ids links) ∧
      ∀ id, id ∈ done ↔ id ∈ ids ∧ Acc (Leads links) id := by
  have hfuel : ids.length ≤ ([] : List String).length + 2 * ids.length := by
    simp only [List.length_nil]
    omega
  obtain ⟨done, hsweep, hqueue, depth, hgraded⟩ :=
    (consistent_start hids).run
      (motive := fun done sweep => ∃ depth, Graded ids links done [] depth sweep)
      (fun link hlink => (hlinks link hlink).2) hfuel
      (fun hsweep hqueue ⟨depth, hgraded⟩ =>
        ⟨_, hgraded.advance hsweep hqueue fun link hlink => (hlinks link hlink).2⟩)
      ⟨0, graded_start hids 0⟩
  exact ⟨done, depth, hgraded, fun id => hsweep.mem_done_iff hqueue hlinks⟩

section Finish

variable (hids : ids.Nodup) (hlinks : ∀ link ∈ links, link.1 ∈ ids ∧ link.2 ∈ ids)
include hids hlinks

theorem keys_stage_finish : Fields.keys (finish ids links).stage = ids := by
  obtain ⟨done, depth, hgraded, -⟩ := exists_graded_finish hids hlinks
  exact hgraded.keys

theorem stage_finish_lt {source target : String} (haccessible : Acc (Leads links) source)
    (hstep : Leads links source target) :
    entry (finish ids links).stage source < entry (finish ids links).stage target := by
  obtain ⟨done, depth, hgraded, hdone⟩ := exists_graded_finish hids hlinks
  have hsource : source ∈ done := (hdone source).mpr ⟨(hlinks _ hstep).1, haccessible⟩
  have htold := hgraded.told source hsource target hstep
  exact htold.resolve_right fun hinHand => List.not_mem_nil hinHand.1

/-- No walk to an accessible node is longer than its stage. -/
theorem length_le_stage_finish {length : ℕ} {first last : String}
    (hwalk : Walk links length first last) (haccessible : Acc (Leads links) last) :
    (length : Int) ≤ entry (finish ids links).stage last := by
  obtain ⟨done, depth, hgraded, -⟩ := exists_graded_finish hids hlinks
  induction hwalk with
  | refl point =>
      obtain ⟨reached, -, hreached⟩ := hgraded.walked point
      omega
  | tail hwalk hstep ih =>
      have hbefore := haccessible.inv hstep
      have hclimb := stage_finish_lt hids hlinks hbefore hstep
      have hlength := ih hbefore
      push_cast
      omega

/-- The stage of an accessible node is the length of the longest walk to it. -/
theorem exists_isGreatest_stage_finish {id : String} (haccessible : Acc (Leads links) id) :
    ∃ depth : ℕ, entry (finish ids links).stage id = depth ∧
      IsGreatest (walkLengths links id) depth := by
  obtain ⟨done, raised, hgraded, -⟩ := exists_graded_finish hids hlinks
  obtain ⟨depth, hreached, hdepth⟩ := hgraded.walked id
  refine ⟨depth, hdepth, hreached, ?_⟩
  rintro length ⟨first, hwalk⟩
  have hlength := length_le_stage_finish hids hlinks hwalk haccessible
  rw [hdepth] at hlength
  exact_mod_cast hlength

end Finish

end Sweep

/-! ## Settling what is left over -/

section Settle

variable {edges : List Edge} {stage : Fields Int} {id key source : String}

theorem le_foldl_max {α : Type*} (value : α → Int) (elements : List α) (start : Int) :
    start ≤ elements.foldl (fun best element => max best (value element)) start ∧
      ∀ element ∈ elements,
        value element ≤ elements.foldl (fun best element => max best (value element)) start := by
  induction elements generalizing start with
  | nil => simp
  | cons head rest ih =>
      obtain ⟨hstart, hrest⟩ := ih (max start (value head))
      rw [List.foldl_cons, List.forall_mem_cons]
      exact ⟨(le_max_left _ _).trans hstart, (le_max_right _ _).trans hstart, hrest⟩

theorem keys_settle (hid : id ∈ Fields.keys stage) :
    Fields.keys (settle ids edges stage id) = Fields.keys stage := by
  rw [settle, Fields.keys_set, if_pos hid]

theorem entry_settle_of_ne (hne : id ≠ key) :
    entry (settle ids edges stage id) key = entry stage key := by
  rw [settle, entry_set, if_neg hne]

/-- Settling a node lowers no stage. -/
theorem entry_le_entry_settle : entry stage key ≤ entry (settle ids edges stage id) key := by
  by_cases hsame : id = key
  · subst hsame
    rw [settle, entry_set, if_pos rfl]
    exact (le_foldl_max (fun edge : Edge => entry stage edge.source + 1) _ _).1
  · rw [entry_settle_of_ne hsame]

/-- A node is settled above the sources of its links. -/
theorem lt_entry_settle (hstep : Leads (Stage.links ids edges) source id) :
    entry stage source < entry (settle ids edges stage id) id := by
  obtain ⟨hends, hsource, -, hne⟩ := mem_links_iff.mp hstep
  obtain ⟨edge, hedge, heq⟩ := List.mem_map.mp hends
  obtain ⟨rfl, rfl⟩ := Prod.mk.inj heq
  have hentering : edge ∈ edges.filter fun other =>
      other.target = edge.target && ids.contains other.source && other.source ≠ edge.target := by
    simpa [hedge, hne] using hsource
  rw [settle, entry_set, if_pos rfl]
  exact (le_foldl_max (fun edge : Edge => entry stage edge.source + 1) _ _).2 edge hentering

theorem keys_foldl_settle {stuck : List String} (hstuck : ∀ id ∈ stuck, id ∈ Fields.keys stage) :
    Fields.keys (stuck.foldl (settle ids edges) stage) = Fields.keys stage := by
  induction stuck generalizing stage with
  | nil => rfl
  | cons id rest ih =>
      obtain ⟨hid, hrest⟩ := List.forall_mem_cons.mp hstuck
      have hkeys : Fields.keys (settle ids edges stage id) = Fields.keys stage := keys_settle hid
      rw [List.foldl_cons, ih (hkeys.symm ▸ hrest), hkeys]

theorem entry_foldl_settle_of_not_mem {stuck : List String} (hkey : key ∉ stuck) :
    entry (stuck.foldl (settle ids edges) stage) key = entry stage key := by
  induction stuck generalizing stage with
  | nil => rfl
  | cons id rest ih =>
      obtain ⟨hne, hrest⟩ : key ≠ id ∧ key ∉ rest := by simpa using hkey
      rw [List.foldl_cons, ih hrest, entry_settle_of_ne (Ne.symm hne)]

theorem entry_le_entry_foldl_settle {stuck : List String} :
    entry stage key ≤ entry (stuck.foldl (settle ids edges) stage) key := by
  induction stuck generalizing stage with
  | nil => exact le_refl _
  | cons id rest ih => exact entry_le_entry_settle.trans ih

/-- A node stays above the sources that are not settled with it or after it. -/
theorem lt_entry_foldl_settle {front back : List String}
    (hstep : Leads (Stage.links ids edges) source id) (hid : id ∉ back)
    (hsource : source ∉ id :: back) :
    entry ((front ++ id :: back).foldl (settle ids edges) stage) source <
      entry ((front ++ id :: back).foldl (settle ids edges) stage) id := by
  rw [List.foldl_append, entry_foldl_settle_of_not_mem hsource, List.foldl_cons,
    entry_foldl_settle_of_not_mem hid]
  exact lt_entry_settle hstep

end Settle

/-! ## Positions -/

theorem pairwise_idxOf_lt (hids : ids.Nodup) :
    ids.Pairwise fun a b => ids.idxOf a < ids.idxOf b := by
  rw [List.pairwise_iff_getElem]
  intro i j hi hj hlt
  rw [hids.idxOf_getElem, hids.idxOf_getElem]
  exact hlt

/-- Where no id repeats, its last position is its only one. -/
theorem lastIndex_eq_idxOf (hids : ids.Nodup) {id : String} (hid : id ∈ ids) :
    lastIndex ids id = ids.idxOf id := by
  obtain ⟨i, hi, rfl⟩ := List.getElem_of_mem hid
  have hback : ids.length - 1 - i < ids.reverse.length := by
    rw [List.length_reverse]
    omega
  have hmirror : ids.reverse[ids.length - 1 - i] = ids[i] := by
    rw [List.getElem_reverse]
    congr 1
    omega
  have hreverse : ids.reverse.idxOf ids[i] = ids.length - 1 - i := by
    rw [← hmirror]
    exact (List.nodup_reverse.mpr hids).idxOf_getElem _ hback
  rw [lastIndex, hreverse, hids.idxOf_getElem]
  omega

/-! ## The stages of a graph -/

/-- The arrows along which stages are counted: between different nodes that are no annotations. -/
def arrows (nodes : List Node) (edges : List Edge) : List (String × String) :=
  Stage.links (stagedIds nodes) edges

/-- The target stands in front of the source in node order. -/
def RunsBack (nodes : List Node) (source target : String) : Prop :=
  (nodes.map Node.id).idxOf target < (nodes.map Node.id).idxOf source

/-- What the stages of a graph are. The nodes that are no annotations have one, in node order. Away
from cycles it is the length of the longest path to the node. Along every arrow stages climb, with
one exception: an arrow from a node behind a cycle back to one in front of it in node order. -/
structure IsStaging (nodes : List Node) (edges : List Edge) (stages : Fields Int) : Prop where
  keys : Fields.keys stages = stagedIds nodes
  longest : ∀ id ∈ stagedIds nodes, ¬ BehindCycle (arrows nodes edges) id →
    ∃ depth : ℕ, Fields.get? stages id = some (depth : Int) ∧
      IsGreatest (walkLengths (arrows nodes edges) id) depth
  climbs : ∀ source target, Leads (arrows nodes edges) source target →
    ¬ (BehindCycle (arrows nodes edges) source ∧ RunsBack nodes source target) →
      canFeed stages source target = true

section Graph

variable {nodes : List Node} {edges : List Edge} {source target : String}

theorem nodup_stagedIds (hids : (nodes.map Node.id).Nodup) : (stagedIds nodes).Nodup :=
  hids.sublist (List.filter_sublist.map _)

/-- Where no id repeats, the id of a node tells whether the node has a stage. -/
theorem mem_stagedIds_iff (hids : (nodes.map Node.id).Nodup) {node : Node} (hnode : node ∈ nodes) :
    node.id ∈ stagedIds nodes ↔ node.isAnnotation = false := by
  rw [stagedIds, List.mem_map]
  constructor
  · rintro ⟨other, hother, hsame⟩
    obtain ⟨hmem, hstaged⟩ := List.mem_filter.mp hother
    rw [← List.inj_on_of_nodup_map hids hmem hnode hsame]
    simpa using hstaged
  · exact fun hstaged => ⟨node, List.mem_filter.mpr ⟨hnode, by simpa using hstaged⟩, rfl⟩

theorem ends_mem_of_mem_arrows :
    ∀ link ∈ arrows nodes edges, link.1 ∈ stagedIds nodes ∧ link.2 ∈ stagedIds nodes :=
  fun _ => ends_mem_of_mem_links

/-- The sweep of a graph when it has run. -/
def swept (nodes : List Node) (edges : List Edge) : Sweep :=
  Sweep.finish (stagedIds nodes) (arrows nodes edges)

/-- The nodes of a graph that the sweep does not reach, in node order. -/
def stuck (nodes : List Node) (edges : List Edge) : List String :=
  (swept nodes edges).leftover (stagedIds nodes)

theorem stuck_sublist (nodes : List Node) (edges : List Edge) :
    (stuck nodes edges).Sublist (nodes.map Node.id) :=
  List.filter_sublist.trans (List.filter_sublist.map _)

/-- What the sweep does not reach is what a cycle leads to. -/
theorem mem_stuck_iff (hids : (nodes.map Node.id).Nodup) {id : String} :
    id ∈ stuck nodes edges ↔ BehindCycle (arrows nodes edges) id := by
  rw [stuck, swept, Sweep.mem_leftover_finish_iff (nodup_stagedIds hids) ends_mem_of_mem_arrows,
    not_acc_iff_behindCycle]
  apply and_iff_right_of_imp
  intro hbehind
  obtain ⟨before, hstep, -⟩ := hbehind.exists_before
  exact (ends_mem_of_mem_arrows _ hstep).2

theorem compute_eq (hids : (nodes.map Node.id).Nodup) :
    compute nodes edges =
      (stuck nodes edges).foldl (settle (stagedIds nodes) edges) (swept nodes edges).stage := by
  have hstaged := nodup_stagedIds hids
  have hascending : (stuck nodes edges).Pairwise fun a b =>
      decide (lastIndex (stagedIds nodes) a ≤ lastIndex (stagedIds nodes) b) = true := by
    refine List.Pairwise.sublist List.filter_sublist ?_
    refine (pairwise_idxOf_lt hstaged).imp_of_mem fun ha hb hlt => ?_
    rw [decide_eq_true_eq, lastIndex_eq_idxOf hstaged ha, lastIndex_eq_idxOf hstaged hb]
    exact hlt.le
  have hsorted := Order.sortBy_eq_self hascending
  rw [stuck, swept] at hsorted
  rw [compute]
  exact congrArg (List.foldl _ _) hsorted

theorem keys_compute (hids : (nodes.map Node.id).Nodup) (edges : List Edge) :
    Fields.keys (compute nodes edges) = stagedIds nodes := by
  have hkeys : Fields.keys (swept nodes edges).stage = stagedIds nodes :=
    Sweep.keys_stage_finish (nodup_stagedIds hids) ends_mem_of_mem_arrows
  rw [compute_eq hids, keys_foldl_settle, hkeys]
  intro id hid
  rw [hkeys]
  exact (List.mem_filter.mp hid).1

theorem canFeed_compute_iff (hids : (nodes.map Node.id).Nodup) (hsource : source ∈ stagedIds nodes)
    (htarget : target ∈ stagedIds nodes) :
    canFeed (compute nodes edges) source target = true ↔
      entry (compute nodes edges) source < entry (compute nodes edges) target := by
  have hkeys := keys_compute hids edges
  rw [canFeed, get?_eq_some_entry (hkeys.symm ▸ hsource), get?_eq_some_entry (hkeys.symm ▸ htarget),
    decide_eq_true_eq]

/-- Along an arrow from a node that no cycle leads to, the sweep itself makes the stage climb. -/
theorem entry_compute_lt_of_not_behindCycle (hids : (nodes.map Node.id).Nodup)
    (hstep : Leads (arrows nodes edges) source target)
    (hsource : ¬ BehindCycle (arrows nodes edges) source) :
    entry (compute nodes edges) source < entry (compute nodes edges) target := by
  have hunstuck : source ∉ stuck nodes edges := fun hmem => hsource ((mem_stuck_iff hids).mp hmem)
  rw [compute_eq hids, entry_foldl_settle_of_not_mem hunstuck]
  calc
    entry (swept nodes edges).stage source < entry (swept nodes edges).stage target :=
      Sweep.stage_finish_lt (nodup_stagedIds hids) ends_mem_of_mem_arrows
        (acc_of_not_behindCycle hsource) hstep
    _ ≤ entry ((stuck nodes edges).foldl (settle (stagedIds nodes) edges)
          (swept nodes edges).stage) target := entry_le_entry_foldl_settle

/-- Of two nodes that are left over, the one that is settled first stays below. -/
theorem entry_compute_lt_of_behindCycle (hids : (nodes.map Node.id).Nodup)
    (hstep : Leads (arrows nodes edges) source target)
    (hsource : BehindCycle (arrows nodes edges) source)
    (hforward : ¬ RunsBack nodes source target) :
    entry (compute nodes edges) source < entry (compute nodes edges) target := by
  obtain ⟨turn, hcycle, hpath⟩ := hsource
  have htarget : target ∈ stuck nodes edges :=
    (mem_stuck_iff hids).mpr ⟨turn, hcycle, hpath.tail hstep⟩
  obtain ⟨front, back, hsplit⟩ := List.mem_iff_append.mp htarget
  have hordered := (pairwise_idxOf_lt hids).sublist (stuck_sublist nodes edges)
  rw [hsplit] at hordered
  have hafter : ∀ id ∈ back, RunsBack nodes id target :=
    (List.pairwise_cons.mp (List.pairwise_append.mp hordered).2.1).1
  rw [compute_eq hids, hsplit]
  apply lt_entry_foldl_settle hstep
  · exact fun hmem => lt_irrefl _ (hafter target hmem)
  · rw [List.mem_cons, not_or]
    exact ⟨(mem_links_iff.mp hstep).2.2.2, fun hmem => hforward (hafter source hmem)⟩

theorem isStaging_compute (hids : (nodes.map Node.id).Nodup) :
    IsStaging nodes edges (compute nodes edges) where
  keys := keys_compute hids edges
  longest := by
    intro id hid hfree
    have hunstuck : id ∉ stuck nodes edges := fun hmem => hfree ((mem_stuck_iff hids).mp hmem)
    obtain ⟨depth, hdepth, hgreatest⟩ : ∃ depth : ℕ, entry (swept nodes edges).stage id = depth ∧
        IsGreatest (walkLengths (arrows nodes edges) id) depth :=
      Sweep.exists_isGreatest_stage_finish (nodup_stagedIds hids) ends_mem_of_mem_arrows
        (acc_of_not_behindCycle hfree)
    refine ⟨depth, ?_, hgreatest⟩
    rw [get?_eq_some_entry (by rwa [keys_compute hids]), compute_eq hids,
      entry_foldl_settle_of_not_mem hunstuck]
    exact congrArg some hdepth
  climbs := by
    intro source target hstep hregular
    obtain ⟨hsource, htarget⟩ := ends_mem_of_mem_arrows _ hstep
    rw [canFeed_compute_iff hids hsource htarget]
    by_cases hbehind : BehindCycle (arrows nodes edges) source
    · have hforward : ¬ RunsBack nodes source target := fun hback => hregular ⟨hbehind, hback⟩
      exact entry_compute_lt_of_behindCycle hids hstep hbehind hforward
    · exact entry_compute_lt_of_not_behindCycle hids hstep hbehind

/-- The order of nodes and edges does not matter to the arrows. -/
theorem leads_arrows_of_perm {nodes' : List Node} {edges' : List Edge} (hnodes : nodes'.Perm nodes)
    (hedges : edges'.Perm edges) : Leads (arrows nodes' edges') = Leads (arrows nodes edges) := by
  have hstaged : (stagedIds nodes').Perm (stagedIds nodes) := (hnodes.filter _).map _
  funext source target
  simp only [Leads, arrows, mem_links_iff, hstaged.mem_iff, (hedges.map Edge.ends).mem_iff]

/-- The order of nodes and edges does not matter to the stage of a node that no cycle leads to. -/
theorem get?_compute_of_perm (hids : (nodes.map Node.id).Nodup) {nodes' : List Node}
    {edges' : List Edge} (hnodes : nodes'.Perm nodes) (hedges : edges'.Perm edges) {id : String}
    (hfree : ¬ BehindCycle (arrows nodes edges) id) :
    Fields.get? (compute nodes' edges') id = Fields.get? (compute nodes edges) id := by
  have hids' : (nodes'.map Node.id).Nodup := (hnodes.map Node.id).nodup_iff.mpr hids
  have hleads := leads_arrows_of_perm hnodes hedges
  have hstaged : id ∈ stagedIds nodes' ↔ id ∈ stagedIds nodes :=
    ((hnodes.filter _).map _).mem_iff
  by_cases hid : id ∈ stagedIds nodes
  · have hfree' : ¬ BehindCycle (arrows nodes' edges') id := by
      rwa [BehindCycle, hleads]
    obtain ⟨depth, hdepth, hgreatest⟩ := (isStaging_compute hids).longest id hid hfree
    obtain ⟨depth', hdepth', hgreatest'⟩ :=
      (isStaging_compute hids').longest id (hstaged.mpr hid) hfree'
    rw [walkLengths_congr hleads] at hgreatest'
    rw [hdepth, hdepth', hgreatest'.unique hgreatest]
  · have habsent : id ∉ Fields.keys (compute nodes edges) := by rwa [keys_compute hids]
    have habsent' : id ∉ Fields.keys (compute nodes' edges') := by
      rwa [keys_compute hids', hstaged]
    rw [Fields.get?_eq_none_iff.mpr habsent, Fields.get?_eq_none_iff.mpr habsent']

/-- Stages are counted along the longest paths. Without cycles they climb along every arrow, and
whatever the order of nodes and edges, a node that no cycle leads to has the same stage. -/
theorem stages_follow_longest_paths (hids : (nodes.map Node.id).Nodup) :
    IsStaging nodes edges (compute nodes edges) ∧
      (Acyclic (arrows nodes edges) → ∀ source target, Leads (arrows nodes edges) source target →
        canFeed (compute nodes edges) source target = true) ∧
      ∀ (nodes' : List Node) (edges' : List Edge), nodes'.Perm nodes → edges'.Perm edges →
        ∀ id, ¬ BehindCycle (arrows nodes edges) id →
          Fields.get? (compute nodes' edges') id = Fields.get? (compute nodes edges) id := by
  have hstaging : IsStaging nodes edges (compute nodes edges) := isStaging_compute hids
  refine ⟨hstaging, ?_, ?_⟩
  · intro hacyclic source target hstep
    apply hstaging.climbs source target hstep
    exact fun hback => acyclic_iff_forall_not_behindCycle.mp hacyclic source hback.1
  · intro nodes' edges' hnodes hedges id
    exact get?_compute_of_perm hids hnodes hedges

/-- Steps of one kind with these ids. -/
def sketchedSteps (ids : List String) : List Node :=
  ids.map fun id => { id, type := "ai", data := { mode := "generate" } }

/-- Edges between these ends. -/
def sketchedEdges (ends : List (String × String)) : List Edge :=
  ends.map fun pair => { id := "", source := pair.1, target := pair.2 }

/-- A node with a short and a long way to it, a loop behind it, and a note. -/
theorem stages_follow_longest_paths_looped :
    let nodes := sketchedSteps ["loop", "start", "end", "middle", "back"] ++
      [{ id := "note", type := "note", data := { mode := "note" } }]
    let edges := sketchedEdges [("start", "end"), ("middle", "end"), ("start", "middle"),
      ("end", "loop"), ("loop", "back"), ("back", "loop"), ("start", "note")]
    compute nodes edges = [("loop", 3), ("start", 0), ("end", 2), ("middle", 1), ("back", 4)] ∧
      IsStaging nodes edges (compute nodes edges) := by
  intro nodes edges
  have hids : (nodes.map Node.id).Nodup := by decide
  exact ⟨by decide +kernel, (stages_follow_longest_paths hids).1⟩

end Graph

/-! ## Insisting on a graph without cycles -/

section Strict

variable {nodes : List Node} {edges : List Edge}

theorem stuck_eq_nil_iff (hids : (nodes.map Node.id).Nodup) :
    stuck nodes edges = [] ↔ Acyclic (arrows nodes edges) := by
  rw [acyclic_iff_forall_not_behindCycle, List.eq_nil_iff_forall_not_mem]
  exact forall_congr' fun id => not_congr (mem_stuck_iff hids)

theorem computeStrict_eq (hids : (nodes.map Node.id).Nodup) :
    computeStrict nodes edges =
      if stuck nodes edges = [] then .ok (compute nodes edges)
      else .error (.cycle (stuck nodes edges)) := by
  cases hstuck : stuck nodes edges with
  | nil =>
      rw [if_pos rfl, compute_eq hids, hstuck, List.foldl_nil]
      rw [stuck, swept, arrows] at hstuck
      simp only [computeStrict, hstuck]
      rfl
  | cons id rest =>
      rw [if_neg (List.cons_ne_nil id rest)]
      rw [stuck, swept, arrows] at hstuck
      simp only [computeStrict, hstuck]

/-- Stages can be computed for every graph without cycles. -/
theorem exists_computeStrict_eq_ok (hids : (nodes.map Node.id).Nodup)
    (hacyclic : Acyclic (edges.map Edge.ends)) :
    ∃ stages, computeStrict nodes edges = .ok stages := by
  have harrows : Acyclic (arrows nodes edges) :=
    hacyclic.of_subset fun _ harrow => (mem_links_iff.mp harrow).1
  have hnone : stuck nodes edges = [] := (stuck_eq_nil_iff hids).mpr harrows
  exact ⟨compute nodes edges, by rw [computeStrict_eq hids, if_pos hnone]⟩

/-- A graph is refused exactly when it has a cycle. The failure lists the nodes on cycles and those
that they lead to, in node order. Otherwise the stages are those of any graph. -/
theorem computeStrict_refuses_cycles (hids : (nodes.map Node.id).Nodup) :
    ((∃ stuck, computeStrict nodes edges = .error (.cycle stuck)) ↔
        ¬ Acyclic (arrows nodes edges)) ∧
      (∀ cause, computeStrict nodes edges = .error cause →
        ∃ stuck : List String, cause = .cycle stuck ∧ stuck.Sublist (nodes.map Node.id) ∧
          ∀ id, id ∈ stuck ↔ BehindCycle (arrows nodes edges) id) ∧
      (Acyclic (arrows nodes edges) → computeStrict nodes edges = .ok (compute nodes edges)) := by
  rw [computeStrict_eq hids, ← stuck_eq_nil_iff hids]
  by_cases hnone : stuck nodes edges = []
  · rw [if_pos hnone]
    refine ⟨⟨?_, fun hsome => absurd hnone hsome⟩, ?_, fun _ => rfl⟩
    · rintro ⟨stuck, heq⟩
      cases heq
    · rintro cause heq
      cases heq
  · rw [if_neg hnone]
    refine ⟨⟨fun _ => hnone, fun _ => ⟨_, rfl⟩⟩, ?_, fun hnil => absurd hnil hnone⟩
    rintro cause heq
    cases heq
    exact ⟨_, rfl, stuck_sublist nodes edges, fun id => mem_stuck_iff hids⟩

/-- A loop of two nodes with a node in front of it, one behind it and one apart. -/
theorem computeStrict_refuses_two_step_loop :
    let nodes := sketchedSteps ["after", "there", "before", "back", "apart"]
    let edges := sketchedEdges [("before", "there"), ("there", "back"), ("back", "there"),
      ("back", "after")]
    computeStrict nodes edges = .error (.cycle ["after", "there", "back"]) ∧
      ¬ Acyclic (arrows nodes edges) := by
  intro nodes edges
  have hids : (nodes.map Node.id).Nodup := by decide
  have herror : computeStrict nodes edges = .error (.cycle ["after", "there", "back"]) := by
    have hstuck : stuck nodes edges = ["after", "there", "back"] := by decide +kernel
    rw [computeStrict_eq hids, hstuck, if_neg (by simp)]
  exact ⟨herror, (computeStrict_refuses_cycles hids).1.mp ⟨_, herror⟩⟩

end Strict

end Stage

end FlowGraph
