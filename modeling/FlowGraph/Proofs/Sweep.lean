/-
# The sweep reaches every node that no cycle stands behind

A sweep takes a node off its queue and follows the node's links one by one. Between two links the
sweep is described by the nodes done so far and by the targets in hand, those that are still to be
told that the node in front of them is done. One invariant relates the two to the sweep's own
tables; following a link keeps it, so taking a node off keeps it, so the whole run keeps it. The
queue holds no node twice and no node that is done, which is why the fuel is enough, and every node
on it is accessible along the links, which is why what is left over is exactly what is not.
-/

import FlowGraph.Stage
import FlowGraph.Proofs.Arrows
import FlowGraph.Proofs.Fields
import FlowGraph.Proofs.Guard

namespace FlowGraph.Stage

open Arrows

theorem entry_set (table : Fields Int) (name key : String) (held : Int) :
    entry (Fields.set table name held) key = if name = key then held else entry table key := by
  rw [entry, Fields.get?_set]
  split <;> rfl

theorem entry_ofPairs_map (value : String → Int) {ids : List String} {id : String}
    (hid : id ∈ ids) : entry (Fields.ofPairs (ids.map fun id => (id, value id))) id = value id := by
  rw [entry, Fields.get?_ofPairs_map value ids hid, Option.getD_some]

/-- The number of links into a node from nodes that are not done. -/
def pending (links : List (String × String)) (done : List String) (id : String) : Nat :=
  (links.filter fun link => link.2 = id ∧ link.1 ∉ done).length

variable {ids done rest : List String} {links : List (String × String)}

theorem indegree_eq_pending (links : List (String × String)) (id : String) :
    indegree links id = pending links [] id := by
  simp [indegree, pending]

theorem pending_eq_zero_iff {id : String} :
    pending links done id = 0 ↔ ∀ source, Leads links source id → source ∈ done := by
  simp only [pending, List.length_eq_zero_iff, List.filter_eq_nil_iff, decide_eq_true_eq, not_and,
    not_not, Leads]
  constructor
  · exact fun hlinks source hlink => hlinks (source, id) hlink rfl
  · rintro hlinks ⟨source, target⟩ hlink rfl
    exact hlinks source hlink

/-- A node that gets done takes its own links out of what the others wait for. -/
theorem pending_eq_add_count {current : String} (hnew : current ∉ done) (id : String) :
    pending links done id =
      pending links (current :: done) id + (successors links current).count id := by
  induction links with
  | nil => rfl
  | cons link rest ih =>
      simp only [pending, successors] at ih ⊢
      by_cases hsource : link.1 = current
      · by_cases htarget : link.2 = id
        · simp [hsource, htarget, hnew] at ih ⊢
          omega
        · simpa [hsource, htarget, hnew] using ih
      · by_cases hdone : link.1 ∈ done
        · simpa [hsource, hdone] using ih
        · by_cases htarget : link.2 = id
          · simp [hsource, hdone, htarget] at ih ⊢
            omega
          · simpa [hsource, hdone, htarget] using ih

namespace Sweep

/-- How the tables of a sweep relate to the nodes done and to the targets in hand. -/
structure Consistent (ids : List String) (links : List (String × String))
    (done inHand : List String) (sweep : Sweep) : Prop where
  listed : ∀ id ∈ done ++ sweep.queue, id ∈ ids
  distinct : (done ++ sweep.queue).Nodup
  waiting : ∀ id ∈ ids, entry sweep.waiting id = (pending links done id + inHand.count id : Nat)
  ready : ∀ id ∈ ids, (id ∈ done ++ sweep.queue ↔ entry sweep.waiting id = 0)
  grounded : ∀ id ∈ done ++ sweep.queue, Acc (Leads links) id

/-- Before the first step nothing is done, and the queue holds what nothing leads to. -/
theorem consistent_start (hids : ids.Nodup) :
    Consistent ids links [] [] (start ids links) where
  listed id hid := (List.mem_filter.mp hid).1
  distinct := hids.filter _
  waiting id hid := by
    rw [start, entry_ofPairs_map _ hid, indegree_eq_pending]
    rfl
  ready id hid := by
    simp only [start, List.nil_append, List.mem_filter, decide_eq_true_eq]
    rw [entry_ofPairs_map _ hid]
    exact and_iff_right hid
  grounded id hid := by
    simp only [start, List.nil_append, List.mem_filter, decide_eq_true_eq] at hid
    have hnone : pending links [] id = 0 := by
      have hzero := hid.2
      rw [indegree_eq_pending] at hzero
      exact_mod_cast hzero
    refine Acc.intro id fun source hlink => ?_
    exact absurd (pending_eq_zero_iff.mp hnone source hlink) List.not_mem_nil

/-- A target in hand waits for a link, so it is neither done nor in the queue. -/
theorem Consistent.not_mem_of_inHand {sweep : Sweep} {target : String}
    (hsweep : Consistent ids links done (target :: rest) sweep) (htarget : target ∈ ids) :
    target ∉ done ++ sweep.queue := by
  rw [hsweep.ready target htarget, hsweep.waiting target htarget, List.count_cons_self]
  omega

/-- Following a link keeps the tables consistent: its target waits for one link less, and joins
the queue when it was the last. -/
theorem Consistent.follow {sweep : Sweep} {target : String}
    (hsweep : Consistent ids links done (target :: rest) sweep) (htarget : target ∈ ids)
    (depth : Int) : Consistent ids links done rest (sweep.follow depth target) := by
  have hbefore := hsweep.waiting target htarget
  rw [List.count_cons_self] at hbefore
  have hwaits := hsweep.not_mem_of_inHand htarget
  have hafter (id : String) (hid : id ∈ ids) :
      entry (sweep.follow depth target).waiting id =
        (pending links done id + rest.count id : Nat) := by
    rw [Sweep.follow, entry_set]
    by_cases hsame : target = id
    · subst hsame
      rw [if_pos rfl, hbefore]
      omega
    · rw [if_neg hsame, hsweep.waiting id hid, List.count_cons_of_ne hsame]
  -- The two ways the step can go differ only in whether the target joins the queue.
  by_cases hlast : entry sweep.waiting target - 1 = 0
  · have hqueue : (sweep.follow depth target).queue = sweep.queue ++ [target] := by
      simp only [Sweep.follow, if_pos hlast]
    have hzero : pending links done target = 0 := by
      omega
    have hmem (id : String) : id ∈ done ++ (sweep.follow depth target).queue ↔
        id ∈ done ++ sweep.queue ∨ id = target := by
      rw [hqueue, ← List.append_assoc, List.mem_append, List.mem_singleton]
    refine ⟨fun id hid => ?_, ?_, hafter, fun id hid => ?_, fun id hid => ?_⟩
    · rcases (hmem id).mp hid with hold | rfl
      · exact hsweep.listed id hold
      · exact htarget
    · rw [hqueue, ← List.append_assoc]
      refine hsweep.distinct.append (List.nodup_singleton _) ?_
      simpa using hwaits
    · rw [hmem, hafter id hid, hsweep.ready id hid, hsweep.waiting id hid]
      by_cases hsame : id = target
      · subst hsame
        simp only [or_true, true_iff]
        omega
      · rw [List.count_cons_of_ne (Ne.symm hsame)]
        simp [hsame]
    · rcases (hmem id).mp hid with hold | rfl
      · exact hsweep.grounded id hold
      · refine Acc.intro id fun source hlink => hsweep.grounded source ?_
        exact List.mem_append_left _ (pending_eq_zero_iff.mp hzero source hlink)
  · have hqueue : (sweep.follow depth target).queue = sweep.queue := by
      simp only [Sweep.follow, if_neg hlast]
    refine ⟨?_, ?_, hafter, fun id hid => ?_, ?_⟩
    · rw [hqueue]
      exact hsweep.listed
    · rw [hqueue]
      exact hsweep.distinct
    · rw [hqueue, hafter id hid, hsweep.ready id hid, hsweep.waiting id hid]
      by_cases hsame : id = target
      · subst hsame
        rw [List.count_cons_self]
        omega
      · rw [List.count_cons_of_ne (Ne.symm hsame)]
    · rw [hqueue]
      exact hsweep.grounded

theorem Consistent.foldl_follow {sweep : Sweep} {inHand : List String}
    (hsweep : Consistent ids links done inHand sweep) (hlisted : ∀ id ∈ inHand, id ∈ ids)
    (depth : Int) : Consistent ids links done [] (inHand.foldl (Sweep.follow depth) sweep) := by
  induction inHand generalizing sweep with
  | nil => exact hsweep
  | cons target rest ih =>
      have hfollowed := hsweep.follow (hlisted target List.mem_cons_self) depth
      exact ih hfollowed fun id hid => hlisted id (List.mem_cons_of_mem _ hid)

/-- A node taken off the queue is done, and the targets of its links are in hand. -/
theorem Consistent.take {sweep : Sweep} {current : String} {more : List String}
    (hsweep : Consistent ids links done [] sweep) (hqueue : sweep.queue = current :: more) :
    Consistent ids links (current :: done) (successors links current)
      { sweep with queue := more } := by
  have hperm : (current :: done ++ more).Perm (done ++ sweep.queue) := by
    rw [hqueue]
    exact List.perm_middle.symm
  have hnew : current ∉ done := by
    have hdistinct := hperm.symm.nodup hsweep.distinct
    exact fun hdone => (List.nodup_cons.mp hdistinct).1 (List.mem_append_left _ hdone)
  exact
    { listed := fun id hid => hsweep.listed id (hperm.mem_iff.mp hid)
      distinct := hperm.symm.nodup hsweep.distinct
      waiting := fun id hid => by
        rw [hsweep.waiting id hid, List.count_nil, pending_eq_add_count hnew]
        rfl
      ready := fun id hid => by
        rw [hperm.mem_iff]
        exact hsweep.ready id hid
      grounded := fun id hid => hsweep.grounded id (hperm.mem_iff.mp hid) }

/-- Taking a node off the queue and following its links makes it a done node. -/
theorem Consistent.advance {sweep : Sweep} {current : String} {more : List String}
    (hsweep : Consistent ids links done [] sweep) (hqueue : sweep.queue = current :: more)
    (hlinks : ∀ link ∈ links, link.2 ∈ ids) :
    Consistent ids links (current :: done) [] (sweep.advance links current more) := by
  refine (hsweep.take hqueue).foldl_follow (fun id hid => ?_) _
  exact hlinks _ (mem_successors_iff.mp hid)

/-- A run with fuel for every node that is not done empties the queue. Whatever holds of the nodes
done and the tables, and is kept when a node is taken off the queue, holds in the end. -/
theorem Consistent.run {motive : List String → Sweep → Prop} {sweep : Sweep} {fuel : Nat}
    (hsweep : Consistent ids links done [] sweep) (hlinks : ∀ link ∈ links, link.2 ∈ ids)
    (hfuel : ids.length ≤ done.length + fuel)
    (hadvance : ∀ {done sweep current more}, Consistent ids links done [] sweep →
      sweep.queue = current :: more → motive done sweep →
        motive (current :: done) (sweep.advance links current more))
    (hmotive : motive done sweep) :
    ∃ finished, Consistent ids links finished [] (Sweep.run links fuel sweep) ∧
      (Sweep.run links fuel sweep).queue = [] ∧ motive finished (Sweep.run links fuel sweep) := by
  induction fuel generalizing done sweep with
  | zero =>
      have hlength := (hsweep.distinct.subperm hsweep.listed).length_le
      rw [List.length_append] at hlength
      have hempty : (Sweep.run links 0 sweep).queue = [] :=
        List.length_eq_zero_iff.mp (by simp only [Sweep.run]; omega)
      exact ⟨done, hsweep, hempty, hmotive⟩
  | succ fuel ih =>
      cases hqueue : sweep.queue with
      | nil =>
          have hstop : Sweep.run links (fuel + 1) sweep = sweep := by
            rw [Sweep.run, hqueue]
          rw [hstop]
          exact ⟨done, hsweep, hqueue, hmotive⟩
      | cons current more =>
          have hgo : Sweep.run links (fuel + 1) sweep =
              Sweep.run links fuel (sweep.advance links current more) := by
            rw [Sweep.run, hqueue]
          rw [hgo]
          refine ih (hsweep.advance hqueue hlinks) ?_ (hadvance hsweep hqueue hmotive)
          simp only [List.length_cons]
          omega

/-- When the queue is empty, done are the nodes that are accessible along the links. -/
theorem Consistent.mem_done_iff {sweep : Sweep} (hsweep : Consistent ids links done [] sweep)
    (hqueue : sweep.queue = []) (hlinks : ∀ link ∈ links, link.1 ∈ ids ∧ link.2 ∈ ids)
    {id : String} : id ∈ done ↔ id ∈ ids ∧ Acc (Leads links) id := by
  constructor
  · intro hdone
    have hmem : id ∈ done ++ sweep.queue := List.mem_append_left _ hdone
    exact ⟨hsweep.listed id hmem, hsweep.grounded id hmem⟩
  · rintro ⟨hid, haccessible⟩
    induction haccessible with
    | intro id _ ih =>
        have hsources : pending links done id = 0 :=
          pending_eq_zero_iff.mpr fun source hlink => ih source hlink (hlinks _ hlink).1
        have hready := hsweep.ready id hid
        rw [hqueue, List.append_nil] at hready
        rw [hready, hsweep.waiting id hid, hsources]
        rfl

/-- What is left over after the sweep are the nodes that have no rank along the links, which are
those on a cycle or behind one. -/
theorem mem_leftover_finish_iff (hids : ids.Nodup)
    (hlinks : ∀ link ∈ links, link.1 ∈ ids ∧ link.2 ∈ ids) {id : String} :
    id ∈ leftover ids (finish ids links) ↔ id ∈ ids ∧ ¬ Acc (Leads links) id := by
  obtain ⟨done, hsweep, hqueue, -⟩ : ∃ done, Consistent ids links done [] (finish ids links) ∧
      (finish ids links).queue = [] ∧ True :=
    (consistent_start hids).run (motive := fun _ _ => True)
      (fun link hlink => (hlinks link hlink).2) (by simp only [List.length_nil]; omega)
      (fun _ _ _ => trivial) trivial
  simp only [leftover, List.mem_filter, decide_eq_true_eq]
  refine and_congr_right fun hid => ?_
  have hready := hsweep.ready id hid
  rw [hqueue, List.append_nil, hsweep.mem_done_iff hqueue hlinks, and_iff_right hid] at hready
  rw [hready, hsweep.waiting id hid]
  omega

end Sweep

theorem mem_links_iff {edges : List Edge} {source target : String} :
    (source, target) ∈ Stage.links ids edges ↔
      (source, target) ∈ edges.map Edge.ends ∧ source ∈ ids ∧ target ∈ ids ∧
        source ≠ target := by
  simp only [Stage.links, List.mem_map, List.mem_filter, Bool.and_eq_true, List.contains_iff_mem,
    decide_eq_true_eq, Prod.mk.injEq, Edge.ends]
  constructor
  · rintro ⟨edge, ⟨hedge, ⟨hsource, htarget⟩, hne⟩, rfl, rfl⟩
    exact ⟨⟨edge, hedge, rfl, rfl⟩, hsource, htarget, hne⟩
  · rintro ⟨⟨edge, hedge, rfl, rfl⟩, hsource, htarget, hne⟩
    exact ⟨edge, ⟨hedge, ⟨hsource, htarget⟩, hne⟩, rfl, rfl⟩

theorem ends_mem_of_mem_links {edges : List Edge} {link : String × String}
    (hlink : link ∈ Stage.links ids edges) : link.1 ∈ ids ∧ link.2 ∈ ids := by
  obtain ⟨-, hsource, htarget, -⟩ := mem_links_iff.mp hlink
  exact ⟨hsource, htarget⟩

end FlowGraph.Stage
