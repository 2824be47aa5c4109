/-
# Step ids that change when they are saved again

A step id is made of a text by one pass, and a second pass finds the id as it should be but for one
thing: an id that did not start with a letter got a word with an underscore in front of it, and if
an underscore followed there are two of them now. The second pass merges them, and no later one
finds anything to do. A number at the end of an id can bring two underscores together in the same
way. So saving, loading and saving again keeps the ids of the steps exactly where none of them has
two underscores in a row. How often ids can change before they settle is not asked here.
-/

import FlowGraph.Proofs.Definition.Tolerance
import FlowGraph.Proofs.Definition.WellFormed
import Mathlib.Data.List.Destutter

namespace FlowGraph

open Compile Text

namespace Compile

/-! ## Merging underscores -/

/-- At most one of two neighbours is an underscore. -/
def Apart (a b : Char) : Prop := a ≠ '_' ∨ b ≠ '_'

instance : DecidableRel Apart := fun a b => inferInstanceAs (Decidable (a ≠ '_' ∨ b ≠ '_'))

/-- No two underscores stand in a row. -/
def HasNoRun (s : String) : Prop := s.toList.IsChain Apart

instance (s : String) : Decidable (HasNoRun s) :=
  inferInstanceAs (Decidable (s.toList.IsChain Apart))

theorem squeeze_eq_destutter (cs : List Char) : squeeze cs = cs.destutter Apart := by
  induction cs using squeeze.induct with
  | case1 cs ih =>
      have hrun : ¬ Apart '_' '_' := by simp [Apart]
      rw [squeeze, ih, List.destutter_cons_cons, if_neg hrun, List.destutter_cons']
  | case2 c cs hsingle ih =>
      rw [squeeze, ih]
      · cases cs with
        | nil => rfl
        | cons next rest =>
            have hapart : Apart c next := by
              by_contra hrun
              rw [Apart, not_or, not_not, not_not] at hrun
              exact hsingle rest hrun.1 (by rw [hrun.2])
            rw [List.destutter_cons_cons, if_pos hapart, List.destutter_cons']
      · exact hsingle
  | case3 => rfl

/-- Merging keeps every other character. -/
theorem filter_squeeze (cs : List Char) :
    (squeeze cs).filter (· ≠ '_') = cs.filter (· ≠ '_') := by
  induction cs using squeeze.induct with
  | case1 cs ih => simpa [squeeze] using ih
  | case2 c cs hsingle ih =>
      rw [squeeze]
      · rw [List.filter_cons, List.filter_cons, ih]
      · exact hsingle
  | case3 => rfl

/-! ## A second pass -/

section Sanitize

variable {s : String}

/-- The text is blank, or starts with a letter, a digit or a dash behind its blanks. -/
def StartsPlainly (s : String) : Prop :=
  ∀ c ∈ (trim s).toList.head?, c.isAlphanum = true ∨ c = '-'

theorem sanitize_eq_self_iff (hs : IsStepId s) : sanitize s = s ↔ HasNoRun s := by
  rw [sanitize_of_isStepId hs, ← String.toList_inj, String.toList_ofList, squeeze_eq_destutter,
    List.destutter_eq_self_iff, HasNoRun]

theorem hasNoRun_sanitize (hs : IsStepId s) : HasNoRun (sanitize s) := by
  rw [sanitize_of_isStepId hs, HasNoRun, String.toList_ofList, squeeze_eq_destutter]
  exact List.isChain_destutter Apart s.toList

theorem isChain_stem (s : String) : (stem s).IsChain Apart := by
  rw [stem, squeeze_eq_destutter]
  exact List.isChain_destutter Apart _

/-- Only where the stem starts with an underscore does the word in front make a run. -/
theorem hasNoRun_sanitize_iff (hs : trim s ≠ "") :
    HasNoRun (sanitize s) ↔ ∀ c ∈ (stem s).head?, c ≠ '_' := by
  rw [sanitize_eq_stem hs, HasNoRun, String.toList_ofList]
  split
  · next hletter =>
    refine iff_of_true (isChain_stem s) fun c hc => ?_
    rintro rfl
    rw [Option.mem_def.mp hc] at hletter
    exact absurd hletter (by decide)
  · have hword : (['s', 't', 'e', 'p', '_'] : List Char).IsChain Apart := by decide
    rw [List.isChain_append]
    constructor
    · rintro ⟨-, -, hseam⟩ c hc
      exact (hseam '_' rfl c hc).resolve_left (not_not.mpr rfl)
    · intro hhead
      refine ⟨hword, isChain_stem s, fun last hlast c hc => ?_⟩
      exact .inr (hhead c hc)

/-- What may stand in an id and is no underscore is a letter, a digit or a dash. -/
theorem head_stem_iff : (∀ c ∈ (stem s).head?, c ≠ '_') ↔ StartsPlainly s := by
  rw [stem, head?_squeeze, List.head?_map, StartsPlainly, trim, String.toList_ofList]
  cases (trimChars s.toList).head? with
  | none => simp
  | some c =>
      simp only [Option.map_some, Option.mem_def, Option.some.injEq, forall_eq']
      by_cases hline : c = '_'
      · subst hline
        decide
      · have hplain : isStepChar c = true ↔ c.isAlphanum = true ∨ c = '-' := by
          simp [isStepChar, hline]
        rw [← hplain]
        split
        · next hstep => exact iff_of_true hline hstep
        · next hstep => exact iff_of_false (not_not.mpr rfl) hstep

/-- A second pass changes nothing exactly where the text starts plainly. -/
theorem sanitize_sanitize_iff (s : String) :
    sanitize (sanitize s) = sanitize s ↔ StartsPlainly s := by
  by_cases hs : trim s = ""
  · have hplain : StartsPlainly s := by simp [StartsPlainly, hs]
    rw [sanitize_blank hs]
    exact iff_of_true (sanitize_blank rfl) hplain
  · rw [sanitize_eq_self_iff (isStepId_sanitize hs), hasNoRun_sanitize_iff hs, head_stem_iff]

/-- A third pass changes nothing. -/
theorem sanitize_sanitize_sanitize (s : String) :
    sanitize (sanitize (sanitize s)) = sanitize (sanitize s) := by
  rcases sanitize_eq_empty_or_isStepId s with hblank | hs
  · have hempty : sanitize "" = "" := sanitize_blank rfl
    rw [hblank, hempty, hempty]
  · have hagain : IsStepId (sanitize (sanitize s)) :=
      isStepId_sanitize (by rw [hs.trim_eq]; exact hs.ne_empty)
    exact (sanitize_eq_self_iff hagain).mpr (hasNoRun_sanitize hs)

/-- Numbering what is left of an id without its runs never gives back the id, unless there was
nothing to merge. -/
theorem sanitize_eq_self_of_suffixed (hs : IsStepId s) {n : Nat}
    (hnumbered : s = Naming.suffixed (sanitize s) n) : sanitize s = s := by
  rw [Naming.suffixed] at hnumbered
  split at hnumbered
  · exact hnumbered.symm
  · have hchars : s.toList = squeeze s.toList ++ '_' :: (Naming.numeral n).toList := by
      conv_lhs => rw [hnumbered, sanitize_of_isStepId hs]
      simp
    -- the number is among the characters that merging keeps
    have hkept := congrArg (List.filter (· ≠ '_')) hchars
    have hdigits : (Naming.numeral n).toList.filter (· ≠ '_') = (Naming.numeral n).toList := by
      rw [List.filter_eq_self]
      intro c hc
      rw [decide_eq_true_iff]
      rintro rfl
      exact underscore_not_mem_numeral n hc
    rw [List.filter_append, filter_squeeze, List.filter_cons_of_neg (by simp), hdigits,
      List.self_eq_append_right] at hkept
    exact absurd hkept (by simp [Naming.numeral])

end Sanitize

/-! ## Saving again -/

section Again

variable {policy : Policy} {nodes : List Node} {edges : List Edge} {saved : Definition}

theorem hasHugeVersion_of_eq_ok (hok : Compile.definition policy nodes edges = .ok saved) :
    ∀ node ∈ nodes, hasHugeVersion node = false := by
  simp only [Compile.definition] at hok
  split at hok
  · cases hok
  · split at hok
    · cases hok
    · next hfits => simpa using hfits

/-- The step of an executed node is named for its id, perhaps with a number behind it. -/
theorem exists_stepId_eq_suffixed {used : List String} {index : Nat} {placement : Placement}
    (hblank : ∀ node ∈ nodes, trim node.id ≠ "")
    (hmem : placement ∈ placements used index nodes) :
    ∃ n, placement.stepId = Naming.suffixed (sanitize (trim placement.node.id)) n := by
  induction nodes generalizing used index with
  | nil => cases hmem
  | cons node rest ih =>
      obtain ⟨hhead, hrest⟩ := List.forall_mem_cons.mp hblank
      rw [placements] at hmem
      by_cases hkey : nodeKey node = ""
      · rw [if_pos hkey] at hmem
        exact ih hrest hmem
      · rw [if_neg hkey, preferredId_of_ne_blank hhead] at hmem
        rcases List.mem_cons.mp hmem with rfl | htail
        · obtain ⟨n, -, -, hfound, -⟩ := Naming.unique_spec (sanitize (trim node.id)) used
          exact ⟨n, hfound⟩
        · exact ih hrest htail

end Again

end Compile

namespace Load

/-- The version of a saved reference can be read. -/
theorem inRange_version_toWire {node : Node} (hkey : nodeKey node ≠ "")
    (hfits : hasHugeVersion node = false) (stepId key : String) :
    ((rawRef (step node stepId key).toWire).field "version").inRange = true := by
  have hmissing : (step node stepId key).toWire.field "nodeRef" = .null := by
    simp [Step.field_toWire]
  have hsaved : (step node stepId key).toWire.field "node_ref" =
      ((node.data.ref.bind savedRef).map NodeRef.toWire).getD .null := by
    simp [Step.field_toWire, step]
  rw [rawRef, hmissing, hsaved]
  cases href : node.data.ref with
  | none => rfl
  | some ref =>
      by_cases hname : trim ref.key = ""
      · rw [Option.bind_some, savedRef, if_pos hname]
        rfl
      · obtain ⟨written, hwritten⟩ : ∃ written,
            (ref.version.bind fun version =>
              if 0 < version then some version else none) = written :=
          ⟨_, rfl⟩
        rw [Option.bind_some, savedRef, if_neg hname, hwritten]
        cases written with
        | none => simp [NodeRef.toWire, Fields.get?_cons, Value.inRange]
        | some n =>
            obtain ⟨version, hversion, hpositive⟩ := Option.bind_eq_some_iff.mp hwritten
            obtain rfl : version = n := by
              split at hpositive
              · exact Option.some.inj hpositive
              · cases hpositive
            have hfits : Decimal.fitsDouble version = true := by
              simpa [hasHugeVersion, hkey, href, hname, hversion] using hfits
            simpa [NodeRef.toWire, Fields.get?_cons, Value.inRange] using hfits

/-- A step of a compiled definition is loaded. -/
theorem exists_nodeOf_step {node : Node} (hkey : nodeKey node ≠ "")
    (hfits : hasHugeVersion node = false) (stepId key : String) (index : Nat) :
    ∃ loaded, nodeOf (step node stepId key).toWire.fields (.ofIndex index) = .ok loaded := by
  obtain ⟨number, hversion⟩ := exists_version (inRange_version_toWire hkey hfits stepId key)
  obtain ⟨place, hplace⟩ := exists_position node stepId key index
  exact (nodeOf_of_position hversion index).1 place hplace

theorem exists_nodes_of_forall {raws : List Value}
    (hraws : ∀ raw ∈ raws, ∀ index, ∃ node, nodeOf raw.fields (.ofIndex index) = .ok node)
    (index : Nat) : ∃ loaded, nodes index raws = .ok loaded := by
  induction raws generalizing index with
  | nil => exact ⟨[], rfl⟩
  | cons raw rest ih =>
      obtain ⟨hhead, hrest⟩ := List.forall_mem_cons.mp hraws
      obtain ⟨first, hfirst⟩ := hhead index
      obtain ⟨others, hothers⟩ := ih hrest (index + 1)
      exact ⟨first :: others, by rw [nodes, hfirst, hothers]; rfl⟩

theorem writtenNodes_toWire (definition : Definition) :
    writtenNodes definition.toWire = definition.steps.map Step.toWire := by
  simp [writtenNodes, Definition.toWire, Fields.get?_cons, Value.asList?]

/-- What was compiled can be loaded. -/
theorem exists_document_of_eq_ok {policy : Policy} {nodes : List Node} {edges : List Edge}
    {saved : Definition} (hok : Compile.definition policy nodes edges = .ok saved)
    (title : String) : ∃ loaded, Load.document saved.toWire title = .ok loaded := by
  have hraws : ∀ raw ∈ writtenNodes saved.toWire, ∀ index,
      ∃ node, nodeOf raw.fields (.ofIndex index) = .ok node := by
    intro raw hraw index
    rw [writtenNodes_toWire, (compiled_of_eq_ok hok).steps_eq, List.map_map] at hraw
    obtain ⟨placement, hplaced, rfl⟩ := List.mem_map.mp hraw
    obtain ⟨hnode, hkey⟩ := mem_of_mem_placed hplaced
    exact exists_nodeOf_step hkey (hasHugeVersion_of_eq_ok hok _ hnode) _ _ index
  obtain ⟨loaded, hloaded⟩ := exists_nodes_of_forall hraws 0
  exact exists_document_of_nodes hloaded (needsLayout_toWire saved) title

end Load

namespace Document

open Load

theorem map_idOf_toWire {nodes : List Node} {edges : List Edge} {saved : Definition}
    (hcompiled : Compiled nodes edges saved) :
    (writtenNodes saved.toWire).map idOf = saved.stepIds := by
  rw [writtenNodes_toWire, Definition.stepIds, List.map_map]
  apply List.map_congr_left
  intro step hstep
  have hfits := hcompiled.isStepId_of_mem step.id (List.mem_map_of_mem hstep)
  simp [idOf, Step.field_toWire, hfits.trim_eq]

/-- Saving what was loaded from a definition keeps its step ids exactly where none of them has two
underscores in a row. -/
theorem stepIds_eq_iff {raws : List Value} {nodes : List Node} {edges : List Edge}
    {again : Definition} (hreads : List.Forall₂ Reads raws nodes)
    (hcompiled : Compiled nodes edges again) (hids : ∀ raw ∈ raws, IsStepId (idOf raw))
    (hdistinct : (raws.map idOf).Nodup) :
    again.stepIds = raws.map idOf ↔ ∀ raw ∈ raws, HasNoRun (idOf raw) := by
  constructor
  · intro hsame raw hraw
    have hkept := map_id_of_reads hreads fun raw hraw => (hids raw hraw).ne_empty
    have hfits {node : Node} (hnode : node ∈ nodes) : IsStepId node.id := by
      have hmem : node.id ∈ raws.map idOf := hkept ▸ List.mem_map_of_mem hnode
      obtain ⟨raw, hraw, hid⟩ := List.mem_map.mp hmem
      exact hid ▸ hids raw hraw
    -- each step is named as its node is
    have hplaced : ∀ placement ∈ placed nodes, placement.stepId = placement.node.id := by
      rw [← List.map_inj_left, ← hcompiled.stepIds_eq, hsame, ← hkept]
      conv_lhs => rw [← map_node_placed_of_reads hreads]
      rw [List.map_map]
      rfl
    have hmem : idOf raw ∈ nodes.map Node.id := hkept ▸ List.mem_map_of_mem hraw
    rw [← map_node_placed_of_reads hreads, List.map_map] at hmem
    obtain ⟨placement, hmem, hid⟩ := List.mem_map.mp hmem
    have hstep : IsStepId placement.node.id := hfits (mem_of_mem_placed hmem).1
    obtain ⟨n, hn⟩ := exists_stepId_eq_suffixed
      (fun node hnode => by rw [(hfits hnode).trim_eq]; exact (hfits hnode).ne_empty) hmem
    rw [hplaced placement hmem, hstep.trim_eq] at hn
    rw [← hid]
    exact (sanitize_eq_self_iff hstep).mp (sanitize_eq_self_of_suffixed hstep hn)
  · intro hrunless
    apply stepIds_of_reads hreads hcompiled _ hdistinct
    intro raw hraw
    exact ⟨(hids raw hraw).ne_empty, (sanitize_eq_self_iff (hids raw hraw)).mpr (hrunless raw hraw)⟩

/-- Step ids settle after a second pass. The first one is enough for a text that is blank or starts
with a letter, a digit or a dash, and for no other. What was compiled can be loaded and compiled
again, and that renames no step exactly where no step id has two underscores in a row. -/
theorem step_ids_settle :
    (∀ s, (sanitize (sanitize s) = sanitize s ↔ StartsPlainly s) ∧
        sanitize (sanitize (sanitize s)) = sanitize (sanitize s)) ∧
      ∀ (document : Document) (policy : Policy) (saved : Definition),
        document.compile policy = .ok saved → ∀ (title : String) (policy' : Policy),
          ∃ loaded again, Load.document saved.toWire title = .ok loaded ∧
            loaded.compile policy' = .ok again ∧
            (again.stepIds = saved.stepIds ↔ ∀ id ∈ saved.stepIds, HasNoRun id) := by
  refine ⟨fun s => ⟨sanitize_sanitize_iff s, sanitize_sanitize_sanitize s⟩, ?_⟩
  intro document policy saved hsaved title policy'
  have hcompiled := compiled_of_eq_ok hsaved
  have hids := map_idOf_toWire hcompiled
  have hne : writtenNodes saved.toWire ≠ [] := by
    rw [writtenNodes_toWire, hcompiled.steps_eq, List.map_map]
    exact mt List.map_eq_nil_iff.mp hcompiled.nonempty
  obtain ⟨loaded, hloaded⟩ := exists_document_of_eq_ok hsaved title
  have hreads := reads_of_document hloaded hne
  obtain ⟨again, hagain⟩ := exists_definition_of_reads hreads hne policy' loaded.edges
  refine ⟨loaded, again, hloaded, hagain, ?_⟩
  have hfits : ∀ raw ∈ writtenNodes saved.toWire, IsStepId (idOf raw) := by
    intro raw hraw
    exact hcompiled.isStepId_of_mem _ (hids ▸ List.mem_map_of_mem hraw)
  have hdistinct : saved.stepIds.Nodup := hcompiled.nodup_stepIds
  rw [← hids] at hdistinct
  have hkept := stepIds_eq_iff hreads (compiled_of_eq_ok hagain) hfits hdistinct
  rw [hids] at hkept
  rw [hkept, ← hids, List.forall_mem_map]

/-- Two steps that generate, of which the second follows the first. -/
def twoGenerators (first second : String) : Document :=
  { nodes := [first, second].map fun id => { id, type := "ai", data := { mode := "generate" } }
    edges := [{ id := "next", source := first, target := second }] }

/-- A digit in front changes an id only once; a number behind an underscore changes it again. -/
theorem numbers_in_ids_settle :
    (∃ saved loaded again, (twoGenerators "1st" "read doc").compile {} = .ok saved ∧
        saved.stepIds = ["step_1st", "read_doc"] ∧
        Load.document saved.toWire "Copy" = .ok loaded ∧ loaded.compile {} = .ok again ∧
        again.stepIds = saved.stepIds) ∧
      ∃ saved loaded again, (twoGenerators "a_" "a!").compile {} = .ok saved ∧
        saved.stepIds = ["a_", "a__2"] ∧
        Load.document saved.toWire "Copy" = .ok loaded ∧ loaded.compile {} = .ok again ∧
        again.stepIds ≠ saved.stepIds := by
  have hcompile (first second : String) (ids : List String)
      (hids : ((twoGenerators first second).compile {}).map Definition.stepIds = .ok ids) :
      ∃ saved, (twoGenerators first second).compile {} = .ok saved ∧ saved.stepIds = ids := by
    cases hsaved : (twoGenerators first second).compile {} with
    | error failure =>
        rw [hsaved] at hids
        cases hids
    | ok saved =>
        rw [hsaved] at hids
        exact ⟨saved, rfl, Except.ok.inj hids⟩
  constructor
  · obtain ⟨saved, hsaved, hids⟩ := hcompile "1st" "read doc" ["step_1st", "read_doc"]
      (by decide +kernel)
    obtain ⟨loaded, again, hloaded, hagain, hiff⟩ :=
      step_ids_settle.2 _ {} saved hsaved "Copy" {}
    exact ⟨saved, loaded, again, hsaved, hids, hloaded, hagain, hiff.mpr (by rw [hids]; decide)⟩
  · obtain ⟨saved, hsaved, hids⟩ := hcompile "a_" "a!" ["a_", "a__2"] (by decide +kernel)
    obtain ⟨loaded, again, hloaded, hagain, hiff⟩ :=
      step_ids_settle.2 _ {} saved hsaved "Copy" {}
    refine ⟨saved, loaded, again, hsaved, hids, hloaded, hagain, fun hsame => ?_⟩
    have hrunless := hiff.mp hsame
    rw [hids] at hrunless
    exact absurd hrunless (by decide)

/-- An underscore in front becomes two behind the word, and the next pass leaves one. -/
theorem underscore_in_front_is_merged :
    sanitize "_hidden" = "step__hidden" ∧ sanitize (sanitize "_hidden") ≠ sanitize "_hidden" ∧
      (((twoGenerators "_hidden" "next").compile {}).bind fun saved =>
        (Load.document saved.toWire "Copy").bind fun loaded =>
          (loaded.compile {}).map fun again => (saved.stepIds, again.stepIds)) =
        .ok (["step__hidden", "next"], ["step_hidden", "next"]) := by
  exact ⟨by decide +kernel, by decide +kernel, by decide +kernel⟩

end Document

end FlowGraph
