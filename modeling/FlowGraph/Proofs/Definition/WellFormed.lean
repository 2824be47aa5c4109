/-
# Every definition is well formed

Whatever ids, labels, edges and handles a graph has, what it compiles to is orderly: ids of steps
and of links fit one grammar and do not repeat, and links join different steps. Links of edges take
fresh ids one after another, as steps do. Links of the chain take theirs from the steps that they
join and from their number, and nothing checks that they differ. They do: merging underscores
leaves alone what follows the last one, which is the number.
-/

import FlowGraph.Proofs.Definition.Flow
import FlowGraph.Proofs.Definition.Translation

namespace FlowGraph

open Compile Text

/-- What every definition of these nodes is like. -/
structure Definition.WellFormed (nodes : List Node) (definition : Definition) : Prop where
  steps : List.Forall₂ (fun node step => step = Compile.step node step.id (nodeKey node))
    (nodes.filter fun node => nodeKey node ≠ "") definition.steps
  stepIds_distinct : definition.stepIds.Nodup
  stepIds_fit : ∀ id ∈ definition.stepIds, IsStepId id
  linkIds_distinct : (definition.links.map Link.id).Nodup
  linkIds_fit : ∀ link ∈ definition.links, IsStepId link.id
  ends : ∀ link ∈ definition.links, link.source ∈ definition.stepIds ∧
    link.target ∈ definition.stepIds ∧ link.source ≠ link.target
  entry : definition.entry =
    if definition.roots = [] then definition.stepIds.take 1 else definition.roots

namespace Compile

/-! ## Ids of links that edges become -/

section Drawn

variable {progress : Progress} {used : List String} {index : Nat} {edges : List Edge}

/-- The link of an edge has a fresh id that fits the grammar. -/
theorem id_of_link? {edge : Edge} {link : Link}
    (hlink : link? progress used index edge = some link) : IsStepId link.id ∧ link.id ∉ used := by
  have hnumbered (number : Nat) : IsStepId ("edge_" ++ Naming.numeral number) :=
    isStepId_numbered ⟨by decide, by simp [isStepChar]⟩ _
  rw [link?] at hlink
  split at hlink
  · split at hlink
    · cases hlink
    · cases hlink
      refine ⟨isStepId_unique ?_ used, Naming.unique_not_mem _ used⟩
      exact isStepId_orText (sanitize_eq_empty_or_isStepId _) (hnumbered _)
  · cases hlink

theorem isStepId_of_mem_links {link : Link} (hmem : link ∈ links progress used index edges) :
    IsStepId link.id := by
  induction edges generalizing used index with
  | nil => cases hmem
  | cons edge rest ih =>
      rw [links] at hmem
      cases hlink : link? progress used index edge with
      | none =>
          rw [hlink] at hmem
          exact ih hmem
      | some first =>
          rw [hlink] at hmem
          rcases List.mem_cons.mp hmem with rfl | hrest
          · exact (id_of_link? hlink).1
          · exact ih hrest

/-- No id is given to two links, and none that is already used. -/
theorem nodup_append_linkIds (hused : used.Nodup) (index : Nat) (edges : List Edge) :
    (used ++ (links progress used index edges).map Link.id).Nodup := by
  induction edges generalizing used index with
  | nil => simpa [links] using hused
  | cons edge rest ih =>
      rw [links]
      cases hlink : link? progress used index edge with
      | none => exact ih hused (index + 1)
      | some first =>
          have hfresh := (id_of_link? hlink).2
          simpa using ih (hused.concat hfresh) (index + 1)

end Drawn

/-! ## Ids of links in a chain -/

section Chain

theorem squeeze_cons (c : Char) (cs : List Char) :
    squeeze (c :: cs) = squeeze cs ∨ squeeze (c :: cs) = c :: squeeze cs := by
  by_cases hrun : c = '_' ∧ cs.head? = some '_'
  · obtain ⟨rfl, hhead⟩ := hrun
    obtain ⟨rest, rfl⟩ := List.head?_eq_some_iff.mp hhead
    left
    rw [squeeze]
  · right
    rw [squeeze]
    rintro rest rfl rfl
    exact hrun ⟨rfl, rfl⟩

theorem squeeze_eq_self {cs : List Char} (hcs : '_' ∉ cs) : squeeze cs = cs := by
  induction cs with
  | nil => rfl
  | cons c rest ih =>
      obtain ⟨hc, hrest⟩ : '_' ≠ c ∧ '_' ∉ rest := by simpa using hcs
      rw [squeeze, ih hrest]
      rintro more rfl -
      exact hc rfl

/-- Merging underscores leaves alone what follows the last one. -/
theorem exists_squeeze_eq_append {digits : List Char} (hdigits : '_' ∉ digits) (cs : List Char) :
    ∃ front, squeeze (cs ++ '_' :: digits) = front ++ '_' :: digits := by
  induction cs with
  | nil =>
      have hmark : squeeze ('_' :: digits) = '_' :: squeeze digits := by
        rw [squeeze]
        rintro rest - rfl
        exact hdigits List.mem_cons_self
      exact ⟨[], by rw [List.nil_append, hmark, squeeze_eq_self hdigits]⟩
  | cons c rest ih =>
      obtain ⟨front, hfront⟩ := ih
      rcases squeeze_cons c (rest ++ '_' :: digits) with hdropped | hkept
      · exact ⟨front, by rw [List.cons_append, hdropped, hfront]⟩
      · exact ⟨c :: front, by rw [List.cons_append, hkept, hfront, List.cons_append]⟩

theorem head?_squeeze (cs : List Char) : (squeeze cs).head? = cs.head? := by
  induction cs using squeeze.induct with
  | case1 cs ih =>
      rw [squeeze, ih]
      rfl
  | case2 c cs hrun ih =>
      rw [squeeze]
      · rfl
      · exact hrun
  | case3 => rfl

/-- Of a text that fits the grammar, only runs of underscores change. -/
theorem sanitize_of_isStepId {s : String} (hs : IsStepId s) :
    sanitize s = String.ofList (squeeze s.toList) := by
  have hself : trimChars s.toList = s.toList := by
    rw [← String.toList_ofList (l := trimChars s.toList), ← trim, hs.trim_eq]
  have hchars : (s.toList.map fun c => if isStepChar c then c else '_') = s.toList := by
    conv_rhs => rw [← List.map_id s.toList]
    exact List.map_congr_left fun c hc => if_pos (hs.2 c hc)
  have hletter : ((squeeze s.toList).head?.map Char.isAlpha).getD false = true := by
    rw [head?_squeeze]
    cases hfirst : s.toList.head? with
    | none => simp [IsStepId, hfirst] at hs
    | some c => simpa [IsStepId, hfirst] using hs.1
  rw [sanitize, hself]
  split
  · rename_i hempty
    exact absurd (String.toList_eq_nil_iff.mp hempty) hs.ne_empty
  · simp only [hchars]
    rw [if_pos hletter]

theorem underscore_not_mem_numeral (n : Nat) : '_' ∉ (Naming.numeral n).toList := by
  simp [Naming.numeral]

/-- An id that is made of a text and a number still ends in the number. -/
theorem exists_sanitize_numbered {stem : String} {n : Nat}
    (hs : IsStepId (stem ++ "_" ++ Naming.numeral n)) :
    ∃ stem', sanitize (stem ++ "_" ++ Naming.numeral n) = stem' ++ "_" ++ Naming.numeral n := by
  obtain ⟨front, hfront⟩ := exists_squeeze_eq_append (underscore_not_mem_numeral n) stem.toList
  have hchars : (stem ++ "_" ++ Naming.numeral n).toList =
      stem.toList ++ '_' :: (Naming.numeral n).toList := by simp
  refine ⟨String.ofList front, ?_⟩
  rw [sanitize_of_isStepId hs, hchars, hfront, ← String.toList_inj]
  simp

/-- The id of the link with this number in a chain, between the two steps. -/
def chainId (a b : String) (number : Nat) : String :=
  orText (sanitize (a ++ "_to_" ++ b ++ "_" ++ Naming.numeral number))
    ("edge_" ++ Naming.numeral number)

theorem map_id_chainFrom (number : Nat) (a b : String) (rest : List String) :
    (chainFrom number (a :: b :: rest)).map Link.id =
      chainId a b number :: (chainFrom (number + 1) (b :: rest)).map Link.id := by
  rw [chainFrom, List.map_cons, chainId]

/-- The id fits the grammar and ends in the number. -/
theorem chainId_spec {a b : String} (ha : IsStepId a) (hb : IsStepId b) (number : Nat) :
    IsStepId (chainId a b number) ∧
      ∃ stem, chainId a b number = stem ++ "_" ++ Naming.numeral number := by
  have hmark : ∀ c ∈ "_to_".toList, isStepChar c = true := by simp [isStepChar]
  have hline : ∀ c ∈ "_".toList, isStepChar c = true := by simp [isStepChar]
  have hname : IsStepId (a ++ "_to_" ++ b ++ "_" ++ Naming.numeral number) :=
    isStepId_numbered (((ha.append hmark).append hb.2).append hline) number
  have hfits := isStepId_sanitize (hname.trim_eq.symm ▸ hname.ne_empty)
  rw [chainId, orText, if_neg hfits.ne_empty]
  exact ⟨hfits, exists_sanitize_numbered hname⟩

theorem chainFrom_ids {ids : List String} (hids : ∀ id ∈ ids, IsStepId id) (number : Nat) :
    ∀ id ∈ (chainFrom number ids).map Link.id, IsStepId id ∧
      ∃ stem n, number ≤ n ∧ id = stem ++ "_" ++ Naming.numeral n := by
  induction ids generalizing number with
  | nil => simp [chainFrom]
  | cons a rest ih =>
      obtain ⟨ha, hrest⟩ := List.forall_mem_cons.mp hids
      cases rest with
      | nil => simp [chainFrom]
      | cons b rest =>
          rw [map_id_chainFrom, List.forall_mem_cons]
          constructor
          · obtain ⟨hfits, stem, hid⟩ := chainId_spec ha (hrest b List.mem_cons_self) number
            exact ⟨hfits, stem, number, Nat.le_refl number, hid⟩
          · intro id hid
            obtain ⟨hfits, stem, n, hn, hnumbered⟩ := ih hrest (number + 1) id hid
            exact ⟨hfits, stem, n, by omega, hnumbered⟩

/-- Links of a chain have different numbers, and so different ids. -/
theorem nodup_chainFrom_ids {ids : List String} (hids : ∀ id ∈ ids, IsStepId id) (number : Nat) :
    ((chainFrom number ids).map Link.id).Nodup := by
  induction ids generalizing number with
  | nil => simp [chainFrom]
  | cons a rest ih =>
      obtain ⟨ha, hrest⟩ := List.forall_mem_cons.mp hids
      cases rest with
      | nil => simp [chainFrom]
      | cons b rest =>
          rw [map_id_chainFrom, List.nodup_cons]
          refine ⟨fun hrepeated => ?_, ih hrest (number + 1)⟩
          obtain ⟨-, stem, n, hn, hlater⟩ := chainFrom_ids hrest (number + 1) _ hrepeated
          obtain ⟨-, stem', hfirst⟩ := chainId_spec ha (hrest b List.mem_cons_self) number
          have hnumber : n = number := Naming.numbered_inj (hlater.symm.trans hfirst)
          omega

end Chain

/-! ## Definitions -/

section Definition

variable {policy : Policy} {nodes : List Node} {edges : List Edge} {definition : Definition}

theorem Compiled.isStepId_of_mem (hcompiled : Compiled nodes edges definition) :
    ∀ id ∈ definition.stepIds, IsStepId id := by
  rw [hcompiled.stepIds_eq]
  rintro id hid
  obtain ⟨placement, hmem, rfl⟩ := List.mem_map.mp hid
  exact isStepId_of_mem_placements hmem

theorem Compiled.forall₂_steps (hcompiled : Compiled nodes edges definition) :
    List.Forall₂ (fun node step => step = Compile.step node step.id (nodeKey node))
      (nodes.filter fun node => nodeKey node ≠ "") definition.steps := by
  rw [hcompiled.steps_eq, ← map_node_placements [] 0, ← placed, List.forall₂_map_left_iff,
    List.forall₂_map_right_iff, List.forall₂_same]
  exact fun placement _ => rfl

/-- Whatever compiles is well formed. -/
theorem wellFormed_of_eq_ok (hok : Compile.definition policy nodes edges = .ok definition) :
    definition.WellFormed nodes := by
  have hcompiled := compiled_of_eq_ok hok
  have hfit := hcompiled.isStepId_of_mem
  have hlinks : (definition.links.map Link.id).Nodup ∧
      ∀ link ∈ definition.links, IsStepId link.id := by
    rw [links_of_eq_ok hok]
    split
    · rw [chain_eq_chainFrom hfit]
      refine ⟨nodup_chainFrom_ids hfit 1, fun link hlink => ?_⟩
      exact (chainFrom_ids hfit 1 link.id (List.mem_map_of_mem hlink)).1
    · rw [← drawnLinks_eq_links]
      refine ⟨?_, fun link hlink => isStepId_of_mem_links hlink⟩
      exact nodup_append_linkIds List.nodup_nil 0 edges
  refine
    { steps := hcompiled.forall₂_steps
      stepIds_distinct := hcompiled.nodup_stepIds
      stepIds_fit := hfit
      linkIds_distinct := hlinks.1
      linkIds_fit := hlinks.2
      ends := fun link hlink => ?_
      entry := ?_ }
  · obtain ⟨hsource, htarget⟩ := hcompiled.ends_mem (List.mem_map_of_mem (f := Link.ends) hlink)
    exact ⟨hsource, htarget, hcompiled.source_ne_target hlink⟩
  · rw [hcompiled.entry_eq, entryIds, ← Definition.roots]
    cases definition.roots with
    | nil => rfl
    | cons first others => rfl

theorem hasHugeVersion_eq_false {node : Node}
    (hversion : ∀ ref ∈ node.data.ref, ∀ version ∈ ref.version, Decimal.fitsDouble version = true) :
    hasHugeVersion node = false := by
  have hfits (ref : NodeRef) (href : node.data.ref = some ref) :
      (ref.version.map fun n => !Decimal.fitsDouble n).getD false = false := by
    cases hnumber : ref.version with
    | none => rfl
    | some n => simp [hversion ref href n hnumber]
  rw [hasHugeVersion]
  cases href : node.data.ref with
  | none => simp
  | some ref => simp [hfits ref href]

/-- A graph fails to compile for want of a node that is executed, and for nothing else as long as
its versions fit a double. What it compiles to is well formed, whatever the graph holds. -/
theorem compiles_to_wellFormed (policy : Policy) {nodes : List Node} (edges : List Edge)
    (hversions : ∀ node ∈ nodes, ∀ ref ∈ node.data.ref, ∀ version ∈ ref.version,
      Decimal.fitsDouble version = true) :
    (Compile.definition policy nodes edges = .error .nothingToCompile ↔
        ∀ node ∈ nodes, nodeKey node = "") ∧
      ((∃ node ∈ nodes, nodeKey node ≠ "") →
        ∃ definition, Compile.definition policy nodes edges = .ok definition ∧
          definition.WellFormed nodes) := by
  have hplaced : placed nodes = [] ↔ ∀ node ∈ nodes, nodeKey node = "" := by
    rw [← List.map_eq_nil_iff (f := Placement.node), placed, map_node_placements]
    simp
  have hcompiles (hsome : placed nodes ≠ []) :
      ∃ definition, Compile.definition policy nodes edges = .ok definition :=
    exists_definition policy edges hsome fun node hnode =>
      hasHugeVersion_eq_false (hversions node hnode)
  refine ⟨⟨fun hfailed => ?_, fun hnone => ?_⟩, fun hsome => ?_⟩
  · by_contra hkeys
    obtain ⟨definition, hok⟩ := hcompiles (mt hplaced.mp hkeys)
    rw [hok] at hfailed
    cases hfailed
  · rw [Compile.definition, used_addAll, hplaced.mpr hnone]
    rfl
  · obtain ⟨definition, hok⟩ := hcompiles fun hnil => by
      obtain ⟨node, hnode, hkey⟩ := hsome
      exact hkey (hplaced.mp hnil node hnode)
    exact ⟨definition, hok, wellFormed_of_eq_ok hok⟩

/-- Repeated, blank and strange ids, an edge to nowhere and a cycle through three steps. -/
theorem compiles_to_wellFormed_strange :
    let nodes := ["a", " a", "", "9 lives!", "é__é"].map fun id =>
      ({ id, type := "ai", data := { mode := "generate" } } : Node)
    let edges := [("a", "9 lives!"), ("9 lives!", "é__é"), ("é__é", "a"), ("a", "nowhere"),
        ("a", "9 lives!")].map fun ends =>
      ({ id := "to", source := ends.1, target := ends.2 } : Edge)
    (Compile.definition {} nodes edges).map (fun definition =>
        (definition.stepIds, definition.links.map Link.id, definition.entry)) =
      .ok (["a", "a_2", "step_3", "step_9_lives_", "step__"], ["to", "to_2", "to_3", "to_4"],
        ["a", "step_3"]) ∧
      ∃ definition, Compile.definition {} nodes edges = .ok definition ∧
        definition.WellFormed nodes := by
  intro nodes edges
  have hversions : ∀ node ∈ nodes, ∀ ref ∈ node.data.ref, ∀ version ∈ ref.version,
      Decimal.fitsDouble version = true := by
    intro node hnode ref href
    obtain ⟨id, -, rfl⟩ := List.mem_map.mp hnode
    cases href
  have hsome : ∃ node ∈ nodes, nodeKey node ≠ "" :=
    ⟨_, List.mem_map_of_mem List.mem_cons_self, by decide +kernel⟩
  exact ⟨by decide +kernel, (compiles_to_wellFormed {} edges hversions).2 hsome⟩

end Definition

end Compile

end FlowGraph
