/-
# The documents of a past run

A run is given documents as a list of ids, as a single id, or as both. Putting them back makes
every trigger hold them as sample input, the first of them by itself as well, beside whatever else
it held, and a second time nothing changes. The single id is read only where no list is given: an
empty list, or one of blanks, hides it.
-/

import FlowGraph.Definition.RunInput
import FlowGraph.Proofs.Fields

namespace FlowGraph.RunInput

open Text

/-! ## What a run was given -/

/-- The entries of the list of ids that are not blank, as texts. -/
def listedIds (input : Value) : List String :=
  (((input.field "doc_ids").asList?.getD []).filter fun id => id.trimmedText ≠ "").map Value.display

/-- The ids that are listed, or else the single id. -/
def givenIds (input : Value) : List String :=
  if listedIds input = [] then [(input.field "doc_id").display] else listedIds input

/-- The run was given a document: a single id that is not blank, or a list with such an id. -/
def GivesDocuments (input : Value) : Prop :=
  ∃ id, trim id ≠ "" ∧
    (input.field "doc_id" = .text id ∨ ∃ ids, input.field "doc_ids" = .list ids ∧ .text id ∈ ids)

/-- There is a list of ids, and every entry of it is blank. -/
def ListsNoDocument (input : Value) : Prop :=
  (input.field "doc_ids").asList?.isSome = true ∧ listedIds input = []

instance (input : Value) : Decidable (ListsNoDocument input) :=
  inferInstanceAs (Decidable (_ ∧ _))

variable {input : Value}

theorem docIds_eq (input : Value) : docIds input =
    if (input.field "doc_ids").asList?.isSome = true then listedIds input
    else if (input.field "doc_id").isTruthy = true then [(input.field "doc_id").display]
    else [] := by
  rw [docIds, listedIds]
  cases input.field "doc_ids" <;> rfl

/-- Where documents were given, their ids are found unless a list without ids hides them. -/
theorem docIds_eq_givenIds_iff (hgives : GivesDocuments input) :
    docIds input = givenIds input ↔ ¬ ListsNoDocument input := by
  rw [docIds_eq, givenIds, ListsNoDocument, not_and]
  by_cases hlisted : listedIds input = []
  · simp only [if_pos hlisted]
    by_cases hlist : (input.field "doc_ids").asList?.isSome = true
    · simp [hlist, hlisted]
    · obtain ⟨id, hblank, hsingle | ⟨ids, hids, -⟩⟩ := hgives
      · have hfilled : id ≠ "" := by
          rintro rfl
          exact hblank (by decide)
        simp [hlist, hsingle, Value.isTruthy, hfilled]
      · simp [hids, Value.asList?] at hlist
  · have hlist : (input.field "doc_ids").asList?.isSome = true := by
      rw [Option.isSome_iff_ne_none]
      intro hnone
      exact hlisted (by simp [listedIds, hnone])
    simp [hlist, hlisted]

/-! ## What is put back -/

theorem get?_folderPatch {key : String} (hkey : key ≠ "folder_path") :
    Fields.get? (folderPatch input) key = none := by
  rw [folderPatch]
  split
  · split
    · rfl
    · simp [Fields.get?_cons, hkey.symm]
  · rfl

theorem keys_patch_sublist (input : Value) :
    (Fields.keys (patch input)).Sublist ["doc_ids", "doc_id", "folder_path"] := by
  have hids : (Fields.keys (docIdsPatch (docIds input))).Sublist ["doc_ids", "doc_id"] := by
    cases docIds input with
    | nil => exact List.nil_sublist _
    | cons first rest => exact List.Sublist.refl _
  have hfolder : (Fields.keys (folderPatch input)).Sublist ["folder_path"] := by
    rw [folderPatch]
    split
    · split
      · exact List.nil_sublist _
      · exact List.Sublist.refl _
    · exact List.nil_sublist _
  rw [patch, Fields.keys, List.map_append]
  exact hids.append hfolder

theorem nodup_keys_patch (input : Value) : (Fields.keys (patch input)).Nodup :=
  (keys_patch_sublist input).nodup (by decide)

/-! ## Triggers and documents -/

/-- The sample inputs of a node. -/
def samples (node : Node) : Fields Value := (node.setting "input").fields

/-- The node with other sample inputs. -/
def withSamples (node : Node) (samples : Fields Value) : Node :=
  node.withConfig (Fields.set node.config "input" (.object samples))

/-- The document with a run's input in every trigger. -/
def restored (input : Value) (document : Document) : Document :=
  (apply document input).getD document

/-- What recovering ids makes of a trigger: its sample input holds them, and the first of them by
itself, beside everything else that it held. A folder may come with them. -/
def Recovered (ids : List String) (before after : Node) : Prop :=
  ∃ held, after = withSamples before held ∧
    Fields.get? held "doc_ids" = some (.list (ids.map .text)) ∧
    Fields.get? held "doc_id" = ids.head?.map .text ∧
    ∀ key, key ∉ ["doc_ids", "doc_id", "folder_path"] →
      Fields.get? held key = Fields.get? (samples before) key

/-- The ids are recovered in every trigger, and nothing else of the document changes. -/
structure RecoveredIn (ids : List String) (before after : Document) : Prop where
  name_eq : after.name = before.name
  edges_eq : after.edges = before.edges
  nodes : List.Forall₂ (fun node resumed =>
    if node.type = "trigger" then Recovered ids node resumed else resumed = node)
    before.nodes after.nodes

/-- No sample input changes but the folder, and nothing else of the nodes. -/
def KeepsSamples (before after : Document) : Prop :=
  List.Forall₂ (fun node resumed => if node.type = "trigger" then
      ∀ key, key ≠ "folder_path" →
        Fields.get? (samples resumed) key = Fields.get? (samples node) key
    else resumed = node)
    before.nodes after.nodes

theorem config_withSamples (node : Node) (held : Fields Value) :
    (withSamples node held).config = Fields.set node.config "input" (.object held) := rfl

theorem samples_withSamples (node : Node) (held : Fields Value) :
    samples (withSamples node held) = held := by
  rw [samples, Node.setting, config_withSamples, Fields.get?_set, if_pos rfl]
  rfl

theorem withSamples_withSamples (node : Node) (first second : Fields Value) :
    withSamples (withSamples node first) second = withSamples node second := by
  rw [withSamples, config_withSamples, Fields.set_set]
  rfl

theorem applyTo_of_trigger {node : Node} (htrigger : node.type = "trigger")
    (patch : Fields Value) :
    applyTo patch node = withSamples node (Fields.setAll (samples node) patch) := if_pos htrigger

theorem applyTo_of_step {node : Node} (hstep : node.type ≠ "trigger") (patch : Fields Value) :
    applyTo patch node = node := if_neg hstep

/-- Putting an input back a second time leaves a node alone. -/
theorem applyTo_applyTo {patch : Fields Value} (hkeys : (Fields.keys patch).Nodup) (node : Node) :
    applyTo patch (applyTo patch node) = applyTo patch node := by
  by_cases htrigger : node.type = "trigger"
  · have hafter : (withSamples node (Fields.setAll (samples node) patch)).type = "trigger" :=
      htrigger
    rw [applyTo_of_trigger htrigger, applyTo_of_trigger hafter, samples_withSamples,
      Fields.setAll_setAll hkeys, withSamples_withSamples]
  · rw [applyTo_of_step htrigger, applyTo_of_step htrigger]

theorem restored_of_patch_eq_nil (hpatch : patch input = []) (document : Document) :
    restored input document = document := by
  rw [restored, apply, hpatch]
  rfl

theorem restored_of_patch_ne_nil (hpatch : patch input ≠ []) (document : Document) :
    restored input document =
      document.withNodes (document.nodes.map (applyTo (patch input))) := by
  rw [restored, apply]
  split
  · contradiction
  · rfl

/-- Putting an input back a second time leaves a document alone. -/
theorem restored_restored (input : Value) (document : Document) :
    restored input (restored input document) = restored input document := by
  by_cases hpatch : patch input = []
  · rw [restored_of_patch_eq_nil hpatch, restored_of_patch_eq_nil hpatch]
  · have htwice : applyTo (patch input) ∘ applyTo (patch input) = applyTo (patch input) :=
      funext fun node => applyTo_applyTo (nodup_keys_patch input) node
    rw [restored_of_patch_ne_nil hpatch, restored_of_patch_ne_nil hpatch, Document.withNodes,
      Document.withNodes, List.map_map, htwice]

/-- A restored trigger holds what is put back, and beside it what it held. -/
theorem forall₂_restored (input : Value) (document : Document) :
    List.Forall₂ (fun node resumed => if node.type = "trigger" then
        ∀ key, Fields.get? (samples resumed) key =
          (Fields.get? (patch input) key).or (Fields.get? (samples node) key)
      else resumed = node)
      document.nodes (restored input document).nodes := by
  by_cases hpatch : patch input = []
  · rw [restored_of_patch_eq_nil hpatch, List.forall₂_same]
    intro node _
    split
    · simp [hpatch]
    · rfl
  · rw [restored_of_patch_ne_nil hpatch, Document.withNodes, List.forall₂_map_right_iff,
      List.forall₂_same]
    intro node _
    split
    · next htrigger =>
      intro key
      rw [applyTo_of_trigger htrigger, samples_withSamples,
        Fields.get?_setAll_of_nodup (nodup_keys_patch input)]
    · next hstep => exact applyTo_of_step hstep _

/-- Ids that were found are recovered. -/
theorem recoveredIn_docIds (hids : docIds input ≠ []) (document : Document) :
    RecoveredIn (docIds input) document (restored input document) := by
  obtain ⟨first, rest, hfound⟩ := List.exists_cons_of_ne_nil hids
  have hpatch : patch input = ("doc_ids", .list ((first :: rest).map .text)) ::
      ("doc_id", .text first) :: folderPatch input := by
    rw [patch, hfound]
    rfl
  have hrestored := restored_of_patch_ne_nil (hpatch ▸ List.cons_ne_nil _ _) document
  refine ⟨by rw [hrestored]; rfl, by rw [hrestored]; rfl, ?_⟩
  rw [hrestored, Document.withNodes, List.forall₂_map_right_iff, List.forall₂_same]
  intro node _
  split
  · next htrigger =>
    refine ⟨_, applyTo_of_trigger htrigger _, ?_, ?_, fun key hkey => ?_⟩
    · rw [Fields.get?_setAll_of_nodup (nodup_keys_patch input), hpatch, hfound]
      rfl
    · rw [Fields.get?_setAll_of_nodup (nodup_keys_patch input), hpatch, hfound]
      rfl
    · have habsent := mt (fun hmem => (keys_patch_sublist input).subset hmem) hkey
      rw [Fields.get?_setAll_of_nodup (nodup_keys_patch input),
        Fields.get?_eq_none_iff.mpr habsent, Option.none_or]
  · next hstep => exact applyTo_of_step hstep _

theorem docIds_of_listsNoDocument (hlists : ListsNoDocument input) : docIds input = [] := by
  rw [docIds_eq, if_pos hlists.1, hlists.2]

/-- Where no ids were found, they stay as they were. -/
theorem keepsSamples_of_docIds_eq_nil (hids : docIds input = []) (document : Document) :
    KeepsSamples document (restored input document) := by
  refine (forall₂_restored input document).imp fun node resumed hresumed => ?_
  split
  · next htrigger =>
    rw [if_pos htrigger] at hresumed
    intro key hkey
    rw [hresumed key, patch, hids, docIdsPatch, List.nil_append, get?_folderPatch hkey,
      Option.none_or]
  · next hstep => simpa only [if_neg hstep] using hresumed

/-- Ids are not recovered in a trigger that holds none, if sample inputs stay as they were. -/
theorem RecoveredIn.not_keepsSamples {ids : List String} {trigger : Node} {after : Document}
    (htrigger : trigger.type = "trigger") (hbare : Fields.get? (samples trigger) "doc_ids" = none)
    (hrecovered : RecoveredIn ids { nodes := [trigger] } after) :
    ¬ KeepsSamples { nodes := [trigger] } after := by
  intro hkept
  obtain ⟨resumed, rest, hresumed, -, hafter⟩ := List.forall₂_cons_left_iff.mp hrecovered.nodes
  obtain ⟨other, others, hother, -, hsame⟩ := List.forall₂_cons_left_iff.mp hkept
  obtain ⟨rfl, -⟩ := List.cons.inj (hafter.symm.trans hsame)
  rw [if_pos htrigger] at hresumed hother
  obtain ⟨held, rfl, hlist, -⟩ := hresumed
  have hids := hother "doc_ids" (by decide)
  rw [samples_withSamples, hlist, hbare] at hids
  cases hids

/-- A run that was given documents gets them back in every document just if it has no list of ids
that are all blank. With such a list no sample input changes but the folder, and the ids are not
recovered. In either case a second time changes nothing. -/
theorem documents_recovered_iff (hgives : GivesDocuments input) :
    ((∀ document, RecoveredIn (givenIds input) document (restored input document)) ↔
        ¬ ListsNoDocument input) ∧
      (ListsNoDocument input → ∀ document, KeepsSamples document (restored input document)) ∧
      ∀ document, restored input (restored input document) = restored input document := by
  have hkept (hlists : ListsNoDocument input) :=
    keepsSamples_of_docIds_eq_nil (docIds_of_listsNoDocument hlists)
  refine ⟨⟨fun hrecovered hlists => ?_, fun hlists document => ?_⟩, hkept, restored_restored input⟩
  · -- a trigger without a configuration tells the two apart
    let trigger : Node := { id := "start", type := "trigger", data := { mode := "manual" } }
    exact (hrecovered { nodes := [trigger] }).not_keepsSamples rfl rfl (hkept hlists _)
  · have hsame := (docIds_eq_givenIds_iff hgives).mpr hlists
    have hgiven : givenIds input ≠ [] := by
      rw [givenIds]
      split
      · exact List.cons_ne_nil _ _
      · assumption
    rw [← hsame] at hgiven ⊢
    exact recoveredIn_docIds hgiven document

/-- A document with a trigger that holds a sample input of its own. -/
def annotated : Document where
  nodes := [{ id := "start", type := "trigger",
              data := { mode := "manual",
                        config := [("input", .object [("note", .text "mine")])] } }]

/-- The two ids of a run are put back, and the first by itself. -/
theorem two_documents_recovered :
    RecoveredIn ["d-1", "d-2"] annotated
      (restored (.object [("doc_ids", .list [.text "d-1", .text " ", .text "d-2"])])
        annotated) := by
  have hgives : GivesDocuments (.object
      [("doc_ids", .list [.text "d-1", .text " ", .text "d-2"])]) :=
    ⟨"d-1", by decide, .inr ⟨_, rfl, List.mem_cons_self⟩⟩
  exact (documents_recovered_iff hgives).1.mpr (by decide +kernel) annotated

/-- A single id is not put back if an empty list stands beside it. -/
theorem single_document_is_lost :
    GivesDocuments (.object [("doc_id", .text "d-1"), ("doc_ids", .list [])]) ∧
      restored (.object [("doc_id", .text "d-1"), ("doc_ids", .list [])]) annotated = annotated ∧
      ¬ RecoveredIn ["d-1"] annotated annotated := by
  refine ⟨⟨"d-1", by decide, .inl rfl⟩, restored_of_patch_eq_nil rfl _, fun hrecovered => ?_⟩
  refine hrecovered.not_keepsSamples rfl rfl ?_
  exact .cons (fun _ _ => rfl) .nil

end FlowGraph.RunInput
