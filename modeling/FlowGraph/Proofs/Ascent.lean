/-
# The two walks over the edges agree

The guard walks along the edges and asks whether an id was seen when it is taken; the walk for what
stands before a node goes against the edges and asks when an id is found. Taking a node on that walk
finds exactly the sources of the edges into it. What is found leads to the node that the walk
started from, and what is found or started from is still to be taken or has all its sources found. A
node joins the list of what is to be taken at most once for all the edges that leave it, so that
list and the edges that leave unknown nodes bound the walk. In the end what is found is closed
against the edges, and the two walks are two readings of one relation.
-/

import FlowGraph.Proofs.Guard

namespace FlowGraph.Connection

open Relation Arrows

namespace Ascent

variable {edges : List Edge} {ascent : Ascent} {current origin id : String} {rest : List String}

/-- Meeting an edge finds its source if it enters the node and the source is new. -/
theorem meet_cases (current : String) (ascent : Ascent) (edge : Edge) :
    (ascent.meet current edge = ascent ∧ (edge.target = current → edge.source ∈ ascent.found)) ∨
      edge.target = current ∧ edge.source ∉ ascent.found ∧
        ascent.meet current edge =
          { found := edge.source :: ascent.found, todo := edge.source :: ascent.todo } := by
  unfold meet
  by_cases htarget : edge.target = current
  · by_cases hfound : edge.source ∈ ascent.found
    · exact Or.inl ⟨by simp [hfound], fun _ => hfound⟩
    · exact Or.inr ⟨htarget, hfound, by simp [htarget, hfound]⟩
  · exact Or.inl ⟨by simp [htarget], fun hsame => absurd hsame htarget⟩

theorem mem_found_foldl_meet {met : List Edge} :
    id ∈ (met.foldl (meet current) ascent).found ↔
      id ∈ ascent.found ∨ ∃ edge ∈ met, edge.source = id ∧ edge.target = current := by
  induction met generalizing ascent with
  | nil => simp
  | cons edge met ih =>
      rw [List.foldl_cons, ih, List.exists_mem_cons_iff]
      rcases meet_cases current ascent edge with ⟨hsame, hold⟩ | ⟨htarget, -, hnew⟩
      · rw [hsame]
        constructor
        · rintro (hfound | hlater)
          · exact Or.inl hfound
          · exact Or.inr (Or.inr hlater)
        · rintro (hfound | ⟨rfl, htarget⟩ | hlater)
          · exact Or.inl hfound
          · exact Or.inl (hold htarget)
          · exact Or.inr hlater
      · rw [hnew, List.mem_cons]
        simp only [htarget, and_true, eq_comm (a := id)]
        tauto

/-- What is found is to be taken later. -/
theorem mem_todo_foldl_meet {met : List Edge} :
    id ∈ (met.foldl (meet current) ascent).todo ↔
      id ∈ ascent.todo ∨
        id ∉ ascent.found ∧ ∃ edge ∈ met, edge.source = id ∧ edge.target = current := by
  induction met generalizing ascent with
  | nil => simp
  | cons edge met ih =>
      rw [List.foldl_cons, ih, List.exists_mem_cons_iff]
      rcases meet_cases current ascent edge with ⟨hsame, hold⟩ | ⟨htarget, hfresh, hnew⟩
      · rw [hsame]
        constructor
        · rintro (htodo | ⟨hunknown, hlater⟩)
          · exact Or.inl htodo
          · exact Or.inr ⟨hunknown, Or.inr hlater⟩
        · rintro (htodo | ⟨hunknown, ⟨rfl, htarget⟩ | hlater⟩)
          · exact Or.inl htodo
          · exact absurd (hold htarget) hunknown
          · exact Or.inr ⟨hunknown, hlater⟩
      · rw [hnew, List.mem_cons, List.mem_cons]
        by_cases hsource : id = edge.source
        · subst hsource
          simp [hfresh, htarget]
        · have hother : ¬ edge.source = id := fun hsame => hsource hsame.symm
          simp [hsource, hother]

theorem nodup_foldl_meet {met : List Edge} (hdistinct : ascent.found.Nodup) :
    (met.foldl (meet current) ascent).found.Nodup := by
  induction met generalizing ascent with
  | nil => exact hdistinct
  | cons edge met ih =>
      apply ih
      rcases meet_cases current ascent edge with ⟨hsame, -⟩ | ⟨-, hfresh, hnew⟩
      · rwa [hsame]
      · rw [hnew]
        exact List.nodup_cons.mpr ⟨hfresh, hdistinct⟩

/-- What bounds the walk: the nodes to be taken, and the edges that leave nodes not found yet. -/
def left (edges : List Edge) (ascent : Ascent) : Nat :=
  ascent.todo.length +
    ((edges.map Edge.ends).filter fun arrow => arrow.1 ∉ ascent.found).length

/-- A node that is found joins those to be taken, and its edges no longer leave an unknown node. -/
theorem left_meet_le {edge : Edge} (hedge : edge ∈ edges) :
    left edges (ascent.meet current edge) ≤ left edges ascent := by
  rcases meet_cases current ascent edge with ⟨hsame, -⟩ | ⟨-, hfresh, hnew⟩
  · rw [hsame]
  · have hcount := Stage.length_filter_add_length_successors (edges.map Edge.ends) hfresh
    have hleaves : edge.target ∈ Stage.successors (edges.map Edge.ends) edge.source :=
      Stage.mem_successors_iff.mpr (List.mem_map_of_mem hedge)
    have hsome := List.length_pos_of_mem hleaves
    rw [hnew, left, left]
    simp only [List.length_cons]
    omega

theorem left_foldl_meet_le {met : List Edge} (hmet : met ⊆ edges) :
    left edges (met.foldl (meet current) ascent) ≤ left edges ascent := by
  induction met generalizing ascent with
  | nil => exact le_refl _
  | cons edge met ih =>
      obtain ⟨hedge, hmet⟩ := List.cons_subset.mp hmet
      exact (ih hmet).trans (left_meet_le hedge)

/-! ## Taking a node -/

theorem leads_ends_iff {source target : String} :
    Leads (edges.map Edge.ends) source target ↔
      ∃ edge ∈ edges, edge.source = source ∧ edge.target = target := by
  simp [Leads, Edge.ends]

theorem mem_found_advance :
    id ∈ (ascent.advance edges current rest).found ↔
      id ∈ ascent.found ∨ Leads (edges.map Edge.ends) id current := by
  rw [advance, mem_found_foldl_meet, leads_ends_iff]

theorem mem_todo_advance :
    id ∈ (ascent.advance edges current rest).todo ↔
      id ∈ rest ∨ id ∉ ascent.found ∧ Leads (edges.map Edge.ends) id current := by
  rw [advance, mem_todo_foldl_meet, leads_ends_iff]

theorem left_advance_lt (htodo : ascent.todo = current :: rest) :
    left edges (ascent.advance edges current rest) < left edges ascent := by
  have hmeet : left edges (ascent.advance edges current rest) ≤
      left edges { ascent with todo := rest } := left_foldl_meet_le (List.Subset.refl edges)
  have htake : left edges { ascent with todo := rest } < left edges ascent := by
    simp only [left, htodo, List.length_cons]
    omega
  exact hmeet.trans_lt htake

/-- How a walk against the edges relates to the node that it started from. -/
structure Rises (edges : List Edge) (origin : String) (ascent : Ascent) : Prop where
  distinct : ascent.found.Nodup
  leads : ∀ id ∈ ascent.found, TransGen (Leads (edges.map Edge.ends)) id origin
  known : ∀ id ∈ ascent.todo, id = origin ∨ id ∈ ascent.found
  covered : ∀ id, id = origin ∨ id ∈ ascent.found →
    id ∈ ascent.todo ∨ ∀ source, Leads (edges.map Edge.ends) source id → source ∈ ascent.found

theorem rises_start (edges : List Edge) (origin : String) :
    Rises edges origin { found := [], todo := [origin] } where
  distinct := List.nodup_nil
  leads _ hid := absurd hid List.not_mem_nil
  known _ hid := Or.inl (List.mem_singleton.mp hid)
  covered _ hid := Or.inl (List.mem_singleton.mpr (hid.resolve_right List.not_mem_nil))

theorem Rises.advance (hrises : Rises edges origin ascent)
    (htodo : ascent.todo = current :: rest) :
    Rises edges origin (ascent.advance edges current rest) where
  distinct := nodup_foldl_meet hrises.distinct
  leads := by
    intro id hid
    rcases mem_found_advance.mp hid with hold | hstep
    · exact hrises.leads id hold
    · have hcurrent : current ∈ ascent.todo := htodo ▸ List.mem_cons_self
      rcases hrises.known current hcurrent with rfl | hfound
      · exact TransGen.single hstep
      · exact TransGen.head hstep (hrises.leads current hfound)
  known := by
    intro id hid
    rcases mem_todo_advance.mp hid with hrest | ⟨-, hstep⟩
    · have hwaits : id ∈ ascent.todo := htodo ▸ List.mem_cons_of_mem _ hrest
      exact (hrises.known id hwaits).imp_right fun hfound => mem_found_advance.mpr (Or.inl hfound)
    · exact Or.inr (mem_found_advance.mpr (Or.inr hstep))
  covered := by
    intro id hid
    by_cases hold : id = origin ∨ id ∈ ascent.found
    · rcases hrises.covered id hold with hwaits | hsources
      · rw [htodo] at hwaits
        rcases List.mem_cons.mp hwaits with rfl | hrest
        · exact Or.inr fun source hstep => mem_found_advance.mpr (Or.inr hstep)
        · exact Or.inl (mem_todo_advance.mpr (Or.inl hrest))
      · exact Or.inr fun source hstep =>
          mem_found_advance.mpr (Or.inl (hsources source hstep))
    · -- a node that was not known before was found just now
      obtain ⟨hne, hunknown⟩ := not_or.mp hold
      have hstep := (mem_found_advance.mp (hid.resolve_left hne)).resolve_left hunknown
      exact Or.inl (mem_todo_advance.mpr (Or.inr ⟨hunknown, hstep⟩))

/-- A walk with fuel for all that is left comes to its end. -/
theorem Rises.run {fuel : Nat} (hrises : Rises edges origin ascent)
    (hfuel : left edges ascent ≤ fuel) :
    Rises edges origin (Ascent.run edges fuel ascent) ∧
      (Ascent.run edges fuel ascent).todo = [] := by
  induction fuel generalizing ascent with
  | zero =>
      have hnone : ascent.todo.length ≤ left edges ascent := Nat.le_add_right _ _
      exact ⟨hrises, List.length_eq_zero_iff.mp (by simp only [Ascent.run]; omega)⟩
  | succ fuel ih =>
      cases htodo : ascent.todo with
      | nil =>
          have hstop : Ascent.run edges (fuel + 1) ascent = ascent := by
            rw [Ascent.run, htodo]
          rw [hstop]
          exact ⟨hrises, htodo⟩
      | cons current rest =>
          have hgo : Ascent.run edges (fuel + 1) ascent =
              Ascent.run edges fuel (ascent.advance edges current rest) := by
            rw [Ascent.run, htodo]
          have hless : left edges (ascent.advance edges current rest) < left edges ascent :=
            left_advance_lt htodo
          rw [hgo]
          exact ih (hrises.advance htodo) (by omega)

theorem rises_finish (edges : List Edge) (origin : String) :
    Rises edges origin (finish edges origin) ∧ (finish edges origin).todo = [] := by
  apply (rises_start edges origin).run
  simp [left, Nat.add_comm]

/-- When nothing is left to do, everything with a path to the origin was found. -/
theorem Rises.mem_found_iff (hrises : Rises edges origin ascent) (htodo : ascent.todo = []) :
    id ∈ ascent.found ↔ TransGen (Leads (edges.map Edge.ends)) id origin := by
  have hclosed {node source : String} (hnode : node = origin ∨ node ∈ ascent.found)
      (hstep : Leads (edges.map Edge.ends) source node) : source ∈ ascent.found := by
    rcases hrises.covered node hnode with hwaits | hsources
    · rw [htodo] at hwaits
      exact absurd hwaits List.not_mem_nil
    · exact hsources source hstep
  refine ⟨hrises.leads id, fun hpath => ?_⟩
  induction hpath using TransGen.head_induction_on with
  | single hstep => exact hclosed (Or.inl rfl) hstep
  | head hstep _ ih => exact hclosed (Or.inr ih) hstep

end Ascent

theorem mem_ancestors_iff {edges : List Edge} {target id : String} :
    id ∈ ancestors edges target ↔ TransGen (Leads (edges.map Edge.ends)) id target := by
  obtain ⟨hrises, htodo⟩ := Ascent.rises_finish edges target
  exact hrises.mem_found_iff htodo

/-- The walk against the edges has nothing left to do in the end, and found, each once, the nodes
with a path to the one that it started from. The guard sees a loop exactly where the target of the
new edge is its source or stands before it. -/
theorem walks_agree (edges : List Edge) :
    (∀ target, (Ascent.finish edges target).todo = [] ∧ (ancestors edges target).Nodup ∧
        ∀ id, id ∈ ancestors edges target ↔
          TransGen (Leads (edges.map Edge.ends)) id target) ∧
      ∀ source target, createsCycle edges source target = true ↔
        source = target ∨ target ∈ ancestors edges source := by
  refine ⟨fun target => ?_, fun source target => ?_⟩
  · obtain ⟨hrises, htodo⟩ := Ascent.rises_finish edges target
    exact ⟨htodo, hrises.distinct, fun id => mem_ancestors_iff⟩
  · rw [createsCycle_iff, mem_ancestors_iff, reflTransGen_iff_eq_or_transGen]

end FlowGraph.Connection
