/-
# The names a sample is looked for under

A reference to the run input is met when the first trigger holds a sample for its key. The key is
written down in lower case before it is looked for, and the entries of the trigger are not. So a
key with capitals is looked for under a name it does not have, and a sample held under the key
itself does not count.
-/

import FlowGraph.Proofs.Case
import FlowGraph.Proofs.Path.Key
import FlowGraph.Proofs.Readiness.Context

namespace FlowGraph.Readiness

open FlowGraph.Text FlowGraph.Path

/-- The key and its other names. -/
def declaredNames (key : String) : List String := key :: (Fields.get? inputAliases key).getD []

/-- A reference through the path is met just where the first trigger of the document holds a sample
under one of the names. -/
def MetBySamples (path : String) (names : List String) : Prop :=
  ∀ (document : Document) (trigger : Node) (stages : Fields Int) (node : Node),
    document.trigger? = some trigger →
      ((Context.of document stages node).bindingOk (.runInput path) = true ↔
        ∃ name ∈ names, HoldsSample trigger name)

variable {key path : String}

theorem sampleNames_eq (hkey : IsKey key) : sampleNames key = declaredNames (lower key) := by
  rw [sampleNames, hkey.firstKey_eq (.refl key), declaredNames]

/-- Names are looked for in lower case. -/
theorem metBySamples_lower (hkey : IsKey key) (hpath : ReadsKey path key) :
    MetBySamples path (declaredNames (lower key)) := by
  intro document trigger stages node htrigger
  have hread : (Binding.runInput path).inputKey? = some key := by
    simp only [Binding.inputKey?, firstKey?, hkey.firstKey_eq hpath, if_neg hkey.ne_empty]
  have hnames : (sampleInput? (some trigger) key).isSome = true ↔
      ∃ name ∈ declaredNames (lower key), HoldsSample trigger name := by
    rw [isSome_sampleInput?_iff, hkey.firstKey_eq (.refl key), sampleNames_eq hkey, ne_eq,
      lower_eq_empty_iff, and_iff_right hkey.ne_empty]
  simp only [Context.bindingOk, hread, Context.of, htrigger, Option.isNone_some, Bool.false_or]
  exact hnames

/-- A trigger that holds a sample under one key, and none under any other. -/
def soleSample (key : String) : Node :=
  { id := "start", type := "trigger"
    data := { mode := "manual", config := [("input", .object [(key, .text "given")])] } }

theorem holdsSample_soleSample {name : String} :
    HoldsSample (soleSample key) name ↔ name = key := by
  have hinput : ((soleSample key).setting "input").fields = [(key, .text "given")] := rfl
  rw [HoldsSample, hinput]
  by_cases hname : name = key
  · subst hname
    refine iff_of_true ⟨.text "given", by simp [Fields.get?], by decide⟩ rfl
  · refine iff_of_false ?_ hname
    rintro ⟨value, hvalue, -⟩
    simp [Fields.get?, Ne.symm hname] at hvalue

/-- No key is another name of its own lower case without being it. -/
theorem eq_lower_of_mem_declaredNames (hmem : key ∈ declaredNames (lower key)) :
    lower key = key := by
  have hnames : ∀ entry ∈ inputAliases, ∀ name ∈ entry.2,
      lower name = name ∨ lower name ≠ entry.1 := by
    decide +kernel
  rcases List.mem_cons.mp hmem with hself | hother
  · exact hself.symm
  · cases hheld : Fields.get? inputAliases (lower key) with
    | none => simp [hheld] at hother
    | some names =>
        rw [hheld, Option.getD_some] at hother
        exact (hnames _ (Fields.mem_of_get? hheld) key hother).resolve_right (not_not.mpr rfl)

/-- A reference is met by the samples held under the lower case of its key or under another name of
that; these are the samples under the key and its other names for all documents just if the key is
in lower case. -/
theorem references_met_in_lowercase (hkey : IsKey key) (hpath : ReadsKey path key) :
    MetBySamples path (declaredNames (lower key)) ∧
      (MetBySamples path (declaredNames key) ↔ lower key = key) := by
  have hlower := metBySamples_lower hkey hpath
  refine ⟨hlower, fun hdeclared => ?_, fun hsame => hsame ▸ hlower⟩
  -- a trigger that holds a sample under the key itself, and nothing else
  let document : Document := { nodes := [soleSample key] }
  have htrigger : document.trigger? = some (soleSample key) := rfl
  have hmet := (hdeclared document _ [] (soleSample key) htrigger).mpr
    ⟨key, List.mem_cons_self, holdsSample_soleSample.mpr rfl⟩
  obtain ⟨name, hname, hheld⟩ := (hlower document _ [] (soleSample key) htrigger).mp hmet
  rw [holdsSample_soleSample] at hheld
  exact eq_lower_of_mem_declaredNames (hheld ▸ hname)

/-- A list of ids is read from the single id. -/
theorem single_id_meets_list :
    MetBySamples "doc_ids.0" (declaredNames "doc_ids") ∧
      (Context.of { nodes := [soleSample "doc_id"] } [] (soleSample "doc_id")).bindingOk
        (.runInput "doc_ids.0") = true := by
  have hkey : IsKey "doc_ids" := by decide +kernel
  have hpath : ReadsKey "doc_ids.0" "doc_ids" := .inr ⟨"0", by decide +kernel⟩
  have hmet : MetBySamples "doc_ids.0" (declaredNames "doc_ids") :=
    (references_met_in_lowercase hkey hpath).2.mpr (by decide +kernel)
  exact ⟨hmet, (hmet _ _ [] _ rfl).mpr ⟨"doc_id", by decide, holdsSample_soleSample.mpr rfl⟩⟩

/-- A sample held under a key with capitals does not meet a reference to that key. -/
theorem capitalized_key_is_missed :
    HoldsSample (soleSample "folderPath") "folderPath" ∧
      (Context.of { nodes := [soleSample "folderPath"] } [] (soleSample "folderPath")).bindingOk
        (.runInput "folderPath") = false := by
  exact ⟨holdsSample_soleSample.mpr rfl, by decide +kernel⟩

end FlowGraph.Readiness
