/-
# What the guard admits

The guard refuses an edge when the target already leads back to the source, and finds that out by
a search that follows every edge once. The search keeps a list of ids still to visit and a list of
ids seen; what is seen leads only to what is seen or still to visit. Each visit either drops an id
or trades the edges that leave it for their targets, so the fuel outlasts the search, and in the
end what is seen is closed under the edges. With the search exact, the guard's verdict is a plain
condition on the two ends and the edges.
-/

import FlowGraph.Connection.Guard
import FlowGraph.Stage
import FlowGraph.Proofs.Arrows

namespace FlowGraph

open Relation Arrows

/-- The two ends of an edge as an arrow. -/
def Edge.ends (edge : Edge) : String × String := (edge.source, edge.target)

/-- The edges of a document as arrows between ids. -/
def Document.arrows (document : Document) : List (String × String) :=
  document.edges.map Edge.ends

namespace Stage

theorem mem_successors_iff {links : List (String × String)} {id next : String} :
    next ∈ successors links id ↔ Leads links id next := by
  simp [successors, Leads]

/-- The links out of a new id are exactly those that stop counting as unseen. -/
theorem length_filter_add_length_successors (links : List (String × String)) {id : String}
    {seen : List String} (hnew : id ∉ seen) :
    (links.filter fun link => link.1 ∉ id :: seen).length + (successors links id).length =
      (links.filter fun link => link.1 ∉ seen).length := by
  induction links with
  | nil => rfl
  | cons link rest ih =>
      simp only [successors, List.length_map] at ih ⊢
      by_cases hid : link.1 = id
      · simp [hid, hnew] at ih ⊢
        omega
      · by_cases hseen : link.1 ∈ seen
        · simpa [hid, hseen] using ih
        · simp [hid, hseen] at ih ⊢
          omega

end Stage

namespace Connection

open Stage (successors mem_successors_iff)

theorem targets_eq_successors (edges : List Edge) :
    targets edges = successors (edges.map Edge.ends) := by
  funext id
  simp only [targets, successors, List.filter_map, List.map_map]
  rfl

variable {arrows : List (String × String)} {fuel : Nat} {todo seen : List String}

/-- Whatever the search meets was seen before or lies on a path from something to visit. -/
theorem reaches_of_mem_collect {id : String}
    (hmem : id ∈ collect (successors arrows) fuel todo seen) :
    id ∈ seen ∨ ∃ start ∈ todo, ReflTransGen (Leads arrows) start id := by
  induction fuel generalizing todo seen with
  | zero => exact Or.inl (by simpa [collect] using hmem)
  | succ fuel ih =>
      cases todo with
      | nil => exact Or.inl (by simpa [collect] using hmem)
      | cons current rest =>
          by_cases hseen : current ∈ seen
          · rw [collect, if_pos (by simpa using hseen)] at hmem
            rcases ih hmem with hold | ⟨start, hstart, hpath⟩
            · exact Or.inl hold
            · exact Or.inr ⟨start, List.mem_cons_of_mem _ hstart, hpath⟩
          · rw [collect, if_neg (by simpa using hseen)] at hmem
            rcases ih hmem with hold | ⟨start, hstart, hpath⟩
            · rcases List.mem_cons.mp hold with rfl | hold
              · exact Or.inr ⟨id, List.mem_cons_self, ReflTransGen.refl⟩
              · exact Or.inl hold
            · rcases List.mem_append.mp hstart with hnext | hrest
              · exact Or.inr ⟨current, List.mem_cons_self,
                  ReflTransGen.head (mem_successors_iff.mp hnext) hpath⟩
              · exact Or.inr ⟨start, List.mem_cons_of_mem _ hrest, hpath⟩

/-- With fuel for everything to visit and every unseen arrow, the search ends in a set that holds
what it started from and that no arrow leaves. -/
theorem collect_closed
    (hfuel : todo.length + (arrows.filter fun arrow => arrow.1 ∉ seen).length ≤ fuel)
    (hcovered : ∀ id ∈ seen, ∀ next, Leads arrows id next → next ∈ seen ∨ next ∈ todo) :
    (∀ id, id ∈ seen ∨ id ∈ todo → id ∈ collect (successors arrows) fuel todo seen) ∧
      ∀ id ∈ collect (successors arrows) fuel todo seen, ∀ next, Leads arrows id next →
        next ∈ collect (successors arrows) fuel todo seen := by
  induction fuel generalizing todo seen with
  | zero =>
      obtain rfl : todo = [] := List.length_eq_zero_iff.mp (by omega)
      simpa [collect] using hcovered
  | succ fuel ih =>
      cases todo with
      | nil => simpa [collect] using hcovered
      | cons current rest =>
          by_cases hseen : current ∈ seen
          · rw [collect, if_pos (by simpa using hseen)]
            have hdrop (id : String) (hid : id ∈ seen ∨ id ∈ current :: rest) :
                id ∈ seen ∨ id ∈ rest := by
              rcases hid with hold | htodo
              · exact Or.inl hold
              · rcases List.mem_cons.mp htodo with rfl | hrest
                · exact Or.inl hseen
                · exact Or.inr hrest
            obtain ⟨hkeep, hclosed⟩ :=
              ih (by simp only [List.length_cons] at hfuel; omega)
                fun id hid next hstep => hdrop next (hcovered id hid next hstep)
            exact ⟨fun id hid => hkeep id (hdrop id hid), hclosed⟩
          · rw [collect, if_neg (by simpa using hseen)]
            have hmove (id : String) (hid : id ∈ seen ∨ id ∈ current :: rest) :
                id ∈ current :: seen ∨ id ∈ successors arrows current ++ rest := by
              rcases hid with hold | htodo
              · exact Or.inl (List.mem_cons_of_mem _ hold)
              · rcases List.mem_cons.mp htodo with rfl | hrest
                · exact Or.inl List.mem_cons_self
                · exact Or.inr (List.mem_append_right _ hrest)
            have hfuel' : (successors arrows current ++ rest).length +
                (arrows.filter fun arrow => arrow.1 ∉ current :: seen).length ≤ fuel := by
              have hcount := Stage.length_filter_add_length_successors arrows hseen
              simp only [List.length_append, List.length_cons] at hfuel ⊢
              omega
            have hcovered' : ∀ id ∈ current :: seen, ∀ next, Leads arrows id next →
                next ∈ current :: seen ∨ next ∈ successors arrows current ++ rest := by
              intro id hid next hstep
              rcases List.mem_cons.mp hid with rfl | hold
              · exact Or.inr (List.mem_append_left _ (mem_successors_iff.mpr hstep))
              · exact hmove next (hcovered id hold next hstep)
            obtain ⟨hkeep, hclosed⟩ := ih hfuel' hcovered'
            exact ⟨fun id hid => hkeep id (hmove id hid), hclosed⟩

/-- The search finds exactly what lies on a path from something to visit. -/
theorem mem_collect_iff (hfuel : todo.length + arrows.length ≤ fuel) (id : String) :
    id ∈ collect (successors arrows) fuel todo [] ↔
      ∃ start ∈ todo, ReflTransGen (Leads arrows) start id := by
  constructor
  · intro hmem
    simpa using reaches_of_mem_collect hmem
  · rintro ⟨start, hstart, hpath⟩
    obtain ⟨hkeep, hclosed⟩ :=
      @collect_closed arrows fuel todo [] (by simpa using hfuel) (by simp)
    induction hpath with
    | refl => exact hkeep _ (Or.inr hstart)
    | tail _ hstep ih => exact hclosed _ ih _ hstep

/-- The guard's test for a loop: the two ends agree, or the target leads to the source. -/
theorem createsCycle_iff {edges : List Edge} {source target : String} :
    createsCycle edges source target = true ↔
      ReflTransGen (Leads (edges.map Edge.ends)) target source := by
  have hfuel : [target].length + (edges.map Edge.ends).length ≤ edges.length + 2 := by
    simp only [List.length_cons, List.length_nil, List.length_map]
    omega
  have hsearch := mem_collect_iff hfuel source
  simp only [List.mem_singleton, exists_eq_left] at hsearch
  rw [createsCycle, downstream, targets_eq_successors, Bool.or_eq_true, decide_eq_true_eq,
    List.contains_iff_mem, hsearch]
  constructor
  · rintro (rfl | hpath)
    · exact ReflTransGen.refl
    · exact hpath
  · exact Or.inr

theorem checkNodes_allow_iff {source target : Node} :
    (checkNodes (some source) (some target)).allow = true ↔
      target.isSourceOnly = false ∧ source.isTerminalOnly = false := by
  simp only [checkNodes]
  by_cases hsourceOnly : target.isSourceOnly = true
  · simp [hsourceOnly, Verdict.refuse]
  · by_cases hterminalOnly : source.isTerminalOnly = true
    · simp [hsourceOnly, hterminalOnly, Verdict.refuse]
    · rw [if_neg hsourceOnly, if_neg hterminalOnly]
      cases missingCapabilities source target <;> simp [hsourceOnly, hterminalOnly]

/-- An edge is admitted exactly between two existing nodes whose types allow it, when the target
does not lead back to the source. -/
theorem validate_allow_iff {document : Document} {source target : String} :
    (validate document source target).allow = true ↔
      ∃ sourceNode targetNode, document.node? source = some sourceNode ∧
        document.node? target = some targetNode ∧ targetNode.isSourceOnly = false ∧
        sourceNode.isTerminalOnly = false ∧
        ¬ ReflTransGen (Leads document.arrows) target source := by
  unfold validate
  cases hsource : document.node? source with
  | none => simp [Verdict.refuse]
  | some sourceNode =>
      cases htarget : document.node? target with
      | none => simp [Verdict.refuse]
      | some targetNode =>
          by_cases hsame : source = target
          · subst hsame
            simp [Verdict.refuse, ReflTransGen.refl]
          · by_cases hcycle : createsCycle document.edges source target = true
            · have hback : ReflTransGen (Leads document.arrows) target source :=
                createsCycle_iff.mp hcycle
              by_cases hallow : (checkNodes (some sourceNode) (some targetNode)).allow = true
              · simp [hsame, hcycle, hallow, hback, Verdict.refuse]
              · simp [hsame, hallow, hback]
            · have hback : ¬ ReflTransGen (Leads document.arrows) target source :=
                fun hpath => hcycle (createsCycle_iff.mpr hpath)
              simp [hsame, hcycle, hback, checkNodes_allow_iff]

end Connection

end FlowGraph
