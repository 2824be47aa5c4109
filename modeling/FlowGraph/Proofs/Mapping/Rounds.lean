/-
# Mapping a document, once and again

Mapping the inputs of a node reads other nodes only for their ids, types and modes, and writes
nothing but bindings. So the nodes of a document can be mapped one after another in any order, each
in the document that the others left behind, and the outcome is the same as when all are mapped
against the document as it was. A node whose inputs were mapped has its slots filled and is left
alone by every later round that is not forced, whatever became of the document in between.

Bindings are mappings, and mappings are equal when they hold the same under every key. A forced
round after an ordinary one may store the same slots in another order than a forced round alone, so
the two outcomes are compared through look-ups. Every other statement here is an equality of
documents.
-/

import FlowGraph.Proofs.Edit.Outline
import FlowGraph.Proofs.Mapping.Resolution

namespace FlowGraph

/-- What mapping reads of a node that may feed another one: its id, its type and its mode. -/
def Node.skeleton (node : Node) : Node :=
  { id := node.id, type := node.type, data := { mode := node.mode } }

/-- The records agree except that the slots of the bindings may stand in another order. -/
def Node.Alike (first second : Node) : Prop :=
  { first with data := { first.data with bindings := second.bindings } } = second ∧
    ∀ slot, Fields.get? first.bindings slot = Fields.get? second.bindings slot

theorem Node.Alike.refl (node : Node) : node.Alike node := ⟨rfl, fun _ => rfl⟩

namespace Document

/-- The document reduced to what mapping reads of it, the node being mapped apart. -/
def skeleton (document : Document) : Document :=
  document.withNodes (document.nodes.map Node.skeleton)

/-- The documents agree except that the slots of bindings may stand in another order. -/
structure Alike (first second : Document) : Prop where
  name_eq : first.name = second.name
  edges_eq : first.edges = second.edges
  nodes_alike : List.Forall₂ Node.Alike first.nodes second.nodes

variable {document next : Document}

theorem stages_skeleton (document : Document) : document.skeleton.stages = document.stages :=
  stages_withNodes_map Node.skeleton (fun _ => rfl) (fun _ => rfl)

theorem incomingSources_skeleton (document : Document) (id : String) :
    document.skeleton.incomingSources id = (document.incomingSources id).map Node.skeleton := by
  have htable : Fields.get? document.skeleton.nodeTable =
      fun key => (Fields.get? document.nodeTable key).map Node.skeleton :=
    funext (get?_nodeTable_withNodes_map Node.skeleton fun _ => rfl)
  rw [incomingSources, incomingSources, htable, List.map_filterMap]
  rfl

theorem skeleton_eq_iff :
    next.skeleton = document.skeleton ↔ next.name = document.name ∧
      next.nodes.map Node.skeleton = document.nodes.map Node.skeleton ∧
      next.edges = document.edges := by
  rw [skeleton, skeleton, withNodes, withNodes, Document.mk.injEq]

/-- Replacing by the node itself changes nothing, unless another node has its id. -/
theorem replaceNode_eq_self {node : Node}
    (hsame : ∀ other ∈ document.nodes, other.id = node.id → other = node) :
    document.replaceNode node = document := by
  have hnodes : document.nodes.map (fun other => if other.id = node.id then node else other) =
      document.nodes := by
    conv_rhs => rw [← List.map_id document.nodes]
    apply List.map_congr_left
    intro other hother
    split
    · next hid => exact (hsame other hother hid).symm
    · rfl
  rw [replaceNode, hnodes, withNodes]

theorem nodeIds_replaceNode (document : Document) (node : Node) :
    (document.replaceNode node).nodeIds = document.nodeIds := by
  apply nodeIds_withNodes_map
  intro other
  split
  · next hid => exact hid.symm
  · rfl

theorem mem_nodes_replaceNode {node other : Node}
    (hother : other ∈ (document.replaceNode node).nodes) :
    other = node ∨ other ∈ document.nodes ∧ other.id ≠ node.id := by
  obtain ⟨before, hbefore, rfl⟩ := List.mem_map.mp hother
  split
  · exact Or.inl rfl
  · next hid => exact Or.inr ⟨hbefore, hid⟩

end Document

namespace Mapping

open Document

/-! ## What mapping reads -/

theorem filling_map_skeleton (candidates : List Node) (rule : BindingRule) :
    filling (candidates.map Node.skeleton) rule = filling candidates rule := by
  rw [filling, filling, List.findSome?_map]
  rfl

theorem resolve_map_skeleton (target : Node) (sources : List Node) (stages : Fields Int)
    (force : Bool) :
    resolve target (sources.map Node.skeleton) stages force =
      resolve target sources stages force := by
  have happly (candidates : List Node) :
      applyRule force target.config (candidates.map Node.skeleton) =
        applyRule force target.config candidates := by
    funext resolution rule
    simp only [applyRule, filling_map_skeleton]
  rw [resolve, resolve, List.filter_map, happly]
  rfl

/-- What mapping a node of the document comes to. -/
def resolution (document : Document) (force : Bool) (node : Node) : Resolution :=
  resolve node (document.incomingSources node.id) document.stages force

/-- What mapping makes of a node of the document. -/
def mapped (document : Document) (force : Bool) (node : Node) : Node :=
  if (resolution document force node).changed then
    node.withBindings (resolution document force node).bindings
  else node

variable {document next : Document} {force : Bool} {node target : Node} {rule : BindingRule}

theorem resolution_congr (hsame : next.skeleton = document.skeleton) (force : Bool) (node : Node) :
    resolution next force node = resolution document force node := by
  rw [resolution, ← resolve_map_skeleton, ← incomingSources_skeleton, ← stages_skeleton, hsame,
    incomingSources_skeleton, resolve_map_skeleton, stages_skeleton, resolution]

theorem mapped_congr (hsame : next.skeleton = document.skeleton) (force : Bool) (node : Node) :
    mapped next force node = mapped document force node := by
  rw [mapped, mapped, resolution_congr hsame]

/-! ## What mapping makes of a node -/

theorem mapped_of_changed (hchanged : (resolution document force node).changed = true) :
    mapped document force node = node.withBindings (resolution document force node).bindings :=
  if_pos hchanged

theorem mapped_of_unchanged (hunchanged : (resolution document force node).changed = false) :
    mapped document force node = node :=
  if_neg (Bool.eq_false_iff.mp hunchanged)

/-- Whatever does not depend on the bindings, or on whether the node was rebuilt, is kept. -/
theorem mapped_keeps {α : Type} (f : Node → α)
    (hkept : ∀ bindings, f (node.withBindings bindings) = f node) :
    f (mapped document force node) = f node := by
  rw [mapped]
  split
  · exact hkept _
  · rfl

@[simp]
theorem id_mapped : (mapped document force node).id = node.id :=
  mapped_keeps Node.id fun _ => rfl

@[simp]
theorem skeleton_mapped : (mapped document force node).skeleton = node.skeleton :=
  mapped_keeps Node.skeleton fun _ => rfl

@[simp]
theorem config_mapped : (mapped document force node).config = node.config :=
  mapped_keeps Node.config fun _ => rfl

@[simp]
theorem rulesOf_mapped : rulesOf (mapped document force node) = rulesOf node :=
  mapped_keeps rulesOf fun _ => rfl

@[simp]
theorem isMappable_mapped : isMappable (mapped document force node) = isMappable node :=
  mapped_keeps isMappable fun _ => rfl

theorem bindings_mapped :
    (mapped document force node).bindings = (resolution document force node).bindings := by
  cases hchanged : (resolution document force node).changed with
  | false =>
      rw [mapped_of_unchanged hchanged]
      exact (bindings_resolve_of_unchanged hchanged).symm
  | true =>
      rw [mapped_of_changed hchanged]
      rfl

/-- What a rule of the node asks for in the document. -/
def wantedIn (document : Document) (node : Node) (rule : BindingRule) : Binding :=
  wanted (feeder? node (document.incomingSources node.id) document.stages) rule

theorem wantedIn_mapped (document : Document) (node : Node) (rule : BindingRule) :
    wantedIn next (mapped document force node) rule = wantedIn next node rule := by
  rw [wantedIn, wantedIn, feeder?, feeder?, id_mapped]

theorem changed_resolution_iff :
    (resolution document force node).changed = true ↔
      ∃ rule ∈ rulesOf node, ¬ Overruled force node rule ∧
        Fields.get? node.bindings rule.targetKey ≠ some (wantedIn document node rule) :=
  changed_resolve_iff

theorem get?_mapped_of_open (hrule : rule ∈ rulesOf node) (hopen : ¬ Overruled force node rule) :
    Fields.get? (mapped document force node).bindings rule.targetKey =
      some (wantedIn document node rule) := by
  rw [bindings_mapped]
  exact get?_resolve_of_open hrule hopen _ _

theorem get?_mapped_of_overruled {slot : String}
    (hoverruled : ∀ rule ∈ rulesOf node, rule.targetKey = slot → Overruled force node rule) :
    Fields.get? (mapped document force node).bindings slot = Fields.get? node.bindings slot := by
  rw [bindings_mapped]
  exact get?_resolve_of_overruled hoverruled

/-- What a rule asks for is a reference, which counts as content. -/
theorem holdsBinding_mapped_of_open (hrule : rule ∈ rulesOf node)
    (hopen : ¬ Overruled force node rule) :
    holdsBinding (mapped document force node).bindings rule.targetKey = true := by
  rw [holdsBinding, get?_mapped_of_open hrule hopen, Option.any_some]
  exact (isReference_wanted ((compatible_rulesOf node).falls_back rule hrule) _).isMeaningful

theorem holdsBinding_mapped {key : String} (hheld : holdsBinding node.bindings key = true) :
    holdsBinding (mapped document force node).bindings key = true := by
  by_cases hopen : ∃ rule ∈ rulesOf node, rule.targetKey = key ∧ ¬ Overruled force node rule
  · obtain ⟨rule, hrule, rfl, hopen⟩ := hopen
    exact holdsBinding_mapped_of_open hrule hopen
  · push Not at hopen
    rw [holdsBinding, get?_mapped_of_overruled hopen]
    exact hheld

theorem Overruled.mapped {once : Bool} (hoverruled : Overruled once node rule) :
    Overruled once (Mapping.mapped document force node) rule := by
  rcases hoverruled with ⟨key, hkey, hheld⟩ | ⟨honce, key, hkey, hheld⟩
  · exact Or.inl ⟨key, hkey, by rwa [config_mapped]⟩
  · exact Or.inr ⟨honce, key, hkey, holdsBinding_mapped hheld⟩

/-- What overrules a rule when the mapping is forced does so in any case. -/
theorem Overruled.unforced (hoverruled : Overruled force node rule) :
    Overruled false node rule := by
  rcases hoverruled with hsetting | ⟨-, hbinding⟩
  · exact Or.inl hsetting
  · exact Or.inr ⟨rfl, hbinding⟩

/-- Only the configuration overrules a rule when the mapping is forced. -/
theorem overruled_true_mapped_iff :
    Overruled true (mapped document force node) rule ↔ Overruled true node rule := by
  simp [Overruled]

/-- Every rule of the node's mode finds its slot filled, or a setting in its place. -/
def Filled (node : Node) : Prop := ∀ rule ∈ rulesOf node, Overruled false node rule

/-- A filled node is left alone in every document. -/
theorem Filled.unchanged (hfilled : Filled node) (document : Document) :
    (resolution document false node).changed = false := by
  rw [← Bool.not_eq_true, changed_resolution_iff]
  rintro ⟨rule, hrule, hopen, -⟩
  exact hopen (hfilled rule hrule)

theorem filled_mapped (document : Document) (force : Bool) (node : Node) :
    Filled (mapped document force node) := by
  intro rule hrule
  rw [rulesOf_mapped] at hrule
  by_cases hoverruled : Overruled force node rule
  · exact hoverruled.unforced.mapped
  · have hown := (compatible_rulesOf node).own rule hrule
    exact Or.inr ⟨rfl, rule.targetKey, hown, holdsBinding_mapped_of_open hrule hoverruled⟩

/-- Mapping a node once more finds nothing to do, forced or not. -/
theorem unchanged_mapped (document : Document) (force : Bool) (node : Node) :
    (resolution document force (mapped document force node)).changed = false := by
  rw [← Bool.not_eq_true, changed_resolution_iff]
  rintro ⟨rule, hrule, hopen, hdiffers⟩
  rw [rulesOf_mapped] at hrule
  rw [wantedIn_mapped] at hdiffers
  exact hdiffers (get?_mapped_of_open hrule fun hoverruled => hopen hoverruled.mapped)

theorem mapped_mapped (document : Document) (force : Bool) (node : Node) :
    mapped document force (mapped document force node) = mapped document force node :=
  mapped_of_unchanged (unchanged_mapped document force node)

/-- What forced mapping leaves alone, ordinary mapping leaves alone. -/
theorem unchanged_of_forced (hunchanged : (resolution document true node).changed = false) :
    (resolution document false node).changed = false := by
  rw [← Bool.not_eq_true, changed_resolution_iff] at hunchanged ⊢
  rintro ⟨rule, hrule, hopen, hdiffers⟩
  exact hunchanged ⟨rule, hrule, fun hoverruled => hopen hoverruled.unforced, hdiffers⟩

theorem get?_mapped_forced (document : Document) (node : Node) (slot : String) :
    Fields.get? (mapped document true (mapped document false node)).bindings slot =
      Fields.get? (mapped document true node).bindings slot := by
  by_cases hopen : ∃ rule ∈ rulesOf node, rule.targetKey = slot ∧ ¬ Overruled true node rule
  · obtain ⟨rule, hrule, rfl, hopen⟩ := hopen
    have hmapped : rule ∈ rulesOf (mapped document false node) := by rwa [rulesOf_mapped]
    rw [get?_mapped_of_open hmapped fun hoverruled =>
      hopen (overruled_true_mapped_iff.mp hoverruled), wantedIn_mapped,
      get?_mapped_of_open hrule hopen]
  · push Not at hopen
    calc Fields.get? (mapped document true (mapped document false node)).bindings slot
      _ = Fields.get? (mapped document false node).bindings slot := by
          apply get?_mapped_of_overruled
          intro rule hrule hslot
          rw [rulesOf_mapped] at hrule
          exact overruled_true_mapped_iff.mpr (hopen rule hrule hslot)
      _ = Fields.get? node.bindings slot :=
          get?_mapped_of_overruled fun rule hrule hslot => (hopen rule hrule hslot).unforced
      _ = Fields.get? (mapped document true node).bindings slot :=
          (get?_mapped_of_overruled hopen).symm

/-- Forced mapping comes to the same with or without an ordinary one before it. -/
theorem mapped_forced_alike (document : Document) (node : Node) :
    (mapped document true (mapped document false node)).Alike (mapped document true node) := by
  refine ⟨?_, get?_mapped_forced document node⟩
  cases hchanged : (resolution document false node).changed with
  | false =>
      rw [mapped_of_unchanged hchanged]
      rfl
  | true =>
      have hforced : (resolution document true node).changed = true := by
        by_contra hunchanged
        rw [unchanged_of_forced (Bool.eq_false_iff.mpr hunchanged)] at hchanged
        cases hchanged
      -- both sides are the node rebuilt, with bindings of their own
      rw [mapped_of_changed hforced, mapped_of_changed hchanged, mapped]
      split <;> rfl

/-- A step with a document of its own. -/
def listingReader : Node :=
  { id := "read", type := "ai"
    data := { mode := "extract", bindings := [("doc_id", .runInput "report")] } }

/-- The step behind a folder listing that a trigger starts. -/
def listingDocument : Document where
  nodes :=
    [{ id := "start", type := "trigger", data := { mode := "manual" } },
     { id := "list", type := "records", data := { mode := "list_folder" } },
     listingReader]
  edges :=
    [{ id := "e1", source := "start", target := "list" },
     { id := "e2", source := "list", target := "read" }]

/-- The slots come in another order when ordinary mapping goes first. -/
example :
    Fields.keys (mapped listingDocument true
        (mapped listingDocument false listingReader)).bindings = ["doc_id", "text", "doc_ids"] ∧
      Fields.keys (mapped listingDocument true listingReader).bindings =
        ["doc_id", "doc_ids", "text"] := by decide +kernel

/-! ## The nodes of a document one after another -/

/-- The node, mapped if its id is one of these. -/
def mappedIn (document : Document) (force : Bool) (ids : List String) (node : Node) : Node :=
  if node.id ∈ ids then mapped document force node else node

/-- The document with the nodes of these ids mapped, each against the document as it is. -/
def remapped (document : Document) (force : Bool) (ids : List String) : Document :=
  document.withNodes (document.nodes.map (mappedIn document force ids))

section Remapped

variable (document : Document) (force : Bool) (ids : List String)

theorem mappedIn_cases (node : Node) :
    mappedIn document force ids node = node ∨
      mappedIn document force ids node = mapped document force node :=
  (ite_eq_or_eq ..).symm

/-- All that mapping keeps is kept where only some nodes are mapped. -/
theorem mappedIn_keeps {α : Type} (f : Node → α) {node : Node}
    (hkept : f (mapped document force node) = f node) :
    f (mappedIn document force ids node) = f node := by
  rcases mappedIn_cases document force ids node with hsame | hmapped
  · rw [hsame]
  · rw [hmapped, hkept]

theorem id_mappedIn (node : Node) : (mappedIn document force ids node).id = node.id :=
  mappedIn_keeps document force ids Node.id id_mapped

theorem skeleton_mappedIn (node : Node) :
    (mappedIn document force ids node).skeleton = node.skeleton :=
  mappedIn_keeps document force ids Node.skeleton skeleton_mapped

theorem mapped_mappedIn (node : Node) :
    mapped document force (mappedIn document force ids node) = mapped document force node :=
  mappedIn_keeps document force ids (mapped document force) (mapped_mapped document force node)

theorem name_remapped : (remapped document force ids).name = document.name := rfl

theorem edges_remapped : (remapped document force ids).edges = document.edges := rfl

theorem nodes_remapped : (remapped document force ids).nodes =
    document.nodes.map (mappedIn document force ids) := rfl

theorem skeleton_remapped : (remapped document force ids).skeleton = document.skeleton := by
  refine skeleton_eq_iff.mpr ⟨name_remapped .., ?_, edges_remapped ..⟩
  rw [nodes_remapped, List.map_map]
  exact List.map_congr_left fun node _ => skeleton_mappedIn document force ids node

theorem nodeIds_remapped : (remapped document force ids).nodeIds = document.nodeIds :=
  nodeIds_withNodes_map (mappedIn document force ids) (id_mappedIn document force ids)

theorem remapped_nil : remapped document force [] = document := by
  have hnone : mappedIn document force [] = id := funext fun _ => if_neg List.not_mem_nil
  rw [remapped, hnone, List.map_id, withNodes]

end Remapped

theorem remapped_congr {ids others : List String} (hsame : ∀ id, id ∈ ids ↔ id ∈ others) :
    remapped document force ids = remapped document force others := by
  have hmapped : mappedIn document force ids = mappedIn document force others := by
    funext node
    simp only [mappedIn, hsame]
  rw [remapped, remapped, hmapped]

theorem replaceNode_remapped (hids : document.nodeIds.Nodup) {original : Node}
    (horiginal : original ∈ document.nodes) (ids : List String) :
    (remapped document force ids).replaceNode (mapped document force original) =
      remapped document force (original.id :: ids) := by
  simp only [replaceNode, remapped, withNodes, List.map_map]
  congr 1
  apply List.map_congr_left
  intro node hnode
  simp only [Function.comp, id_mappedIn, id_mapped]
  by_cases hid : node.id = original.id
  · obtain rfl := node_eq_of_id_eq hids hnode horiginal hid
    simp [mappedIn]
  · simp [mappedIn, hid]

theorem mapNode_of_changed {edited : Option Document}
    (hchanged : (resolution document force target).changed = true) :
    mapNode document document.stages force edited target =
      some ((edited.getD document).replaceNode (mapped document force target)) := by
  rw [mapped_of_changed hchanged]
  exact if_pos hchanged

theorem mapNode_of_unchanged {edited : Option Document}
    (hunchanged : (resolution document force target).changed = false) :
    mapNode document document.stages force edited target = edited :=
  if_neg (Bool.eq_false_iff.mp hunchanged)

/-- Mapping a node stores what mapping makes of it, also where that is the node itself. -/
theorem getD_mapNode {edited : Option Document}
    (hkept : ∀ node ∈ (edited.getD document).nodes, node.id = target.id →
      node = target ∨ node = mapped document force target) :
    (mapNode document document.stages force edited target).getD document =
      (edited.getD document).replaceNode (mapped document force target) := by
  cases hchanged : (resolution document force target).changed with
  | true => rw [mapNode_of_changed hchanged, Option.getD_some]
  | false =>
      rw [mapped_of_unchanged hchanged] at hkept ⊢
      rw [mapNode_of_unchanged hchanged,
        replaceNode_eq_self fun other hother hid => (hkept other hother hid).elim id id]

/-- The node is mapped along with all others: the catalog lets it be, and an edge enters it. -/
def takesPart (document : Document) (node : Node) : Bool :=
  isMappable node && !(document.edgesTo node.id).isEmpty

theorem takesPart_remapped (document : Document) (force : Bool) (ids : List String) (node : Node) :
    takesPart (remapped document force ids) (mappedIn document force ids node) =
      takesPart document node := by
  rw [takesPart, takesPart, id_mappedIn,
    mappedIn_keeps document force ids isMappable isMappable_mapped]
  rfl

/-- The nodes that are mapped when all are. -/
def targets (document : Document) : List Node := document.nodes.filter (takesPart document)

theorem mem_map_id_targets_iff (hids : document.nodeIds.Nodup) (hnode : node ∈ document.nodes) :
    node.id ∈ (targets document).map Node.id ↔ takesPart document node = true := by
  rw [List.mem_map]
  constructor
  · rintro ⟨other, hother, hid⟩
    obtain ⟨hmem, htakes⟩ := List.mem_filter.mp hother
    rwa [← node_eq_of_id_eq hids hmem hnode hid]
  · intro htakes
    exact ⟨node, List.mem_filter.mpr ⟨hnode, htakes⟩, rfl⟩

theorem map_id_targets_remapped (document : Document) (force : Bool) (ids : List String) :
    (targets (remapped document force ids)).map Node.id = (targets document).map Node.id := by
  have htakes : takesPart (remapped document force ids) ∘ mappedIn document force ids =
      takesPart document := funext (takesPart_remapped document force ids)
  have hsame : Node.id ∘ mappedIn document force ids = Node.id :=
    funext (id_mappedIn document force ids)
  rw [targets, nodes_remapped, List.filter_map, htakes, List.map_map, hsame, targets]

/-- The document after mapping all nodes. -/
def mappedAll (document : Document) (force : Bool) : Document :=
  (mapAll document force).getD document

/-- The document after mapping one node. -/
def mappedAt (document : Document) (id : String) (force : Bool) : Except Failure Document :=
  (autoMap document (some id) force).map fun edited => edited.getD document

theorem getD_foldl_mapNode (hids : document.nodeIds.Nodup) {chosen : List Node}
    (hchosen : chosen ⊆ document.nodes) {ids : List String} {edited : Option Document}
    (hedited : edited.getD document = remapped document force ids) :
    (chosen.foldl (mapNode document document.stages force) edited).getD document =
      remapped document force ((chosen.map Node.id).reverse ++ ids) := by
  induction chosen generalizing ids edited with
  | nil => exact hedited
  | cons target rest ih =>
      obtain ⟨htarget, hrest⟩ := List.cons_subset.mp hchosen
      rw [List.foldl_cons, List.map_cons, List.reverse_cons, List.append_assoc]
      apply ih hrest
      rw [getD_mapNode, hedited, replaceNode_remapped hids htarget]
      · rfl
      · intro node hnode hid
        rw [hedited] at hnode
        obtain ⟨original, horiginal, rfl⟩ := List.mem_map.mp hnode
        rw [id_mappedIn] at hid
        obtain rfl := node_eq_of_id_eq hids horiginal htarget hid
        exact mappedIn_cases document force ids original

theorem mappedAll_eq_remapped (hids : document.nodeIds.Nodup) (force : Bool) :
    mappedAll document force = remapped document force ((targets document).map Node.id) := by
  have hall : mappedAll document force =
      remapped document force (((targets document).map Node.id).reverse ++ []) :=
    getD_foldl_mapNode hids List.filter_sublist.subset (remapped_nil document force).symm
  rw [hall]
  exact remapped_congr fun id => by simp

theorem mappedAt_eq_ok {id : String} (hnode : document.node? id = some node) (force : Bool) :
    mappedAt document id force =
      .ok ((mapNode document document.stages force none node).getD document) := by
  rw [mappedAt, autoMap, requireNode_eq_ok_iff.mpr hnode]
  rfl

theorem mappedAt_of_node? (hids : document.nodeIds.Nodup) {id : String}
    (hnode : document.node? id = some node) (force : Bool) :
    mappedAt document id force = .ok (document.replaceNode (mapped document force node)) := by
  rw [mappedAt_eq_ok hnode, getD_mapNode]
  · rfl
  · intro other hother hid
    exact Or.inl (node_eq_of_id_eq hids hother (mem_of_node? hnode).1 hid)

/-- Mapping one more node on top of others makes of it what it would have become alone. -/
theorem mappedAt_remapped (hids : document.nodeIds.Nodup) {id : String}
    (hid : id ∈ document.nodeIds) (ids : List String) :
    mappedAt (remapped document force ids) id force =
      .ok (remapped document force (id :: ids)) := by
  have hcurrent := nodeIds_remapped document force ids
  obtain ⟨node, hfound⟩ := Option.isSome_iff_exists.mp (isSome_node?_iff.mpr (hcurrent ▸ hid))
  obtain ⟨hnode, rfl⟩ := mem_of_node? hfound
  obtain ⟨original, horiginal, rfl⟩ := List.mem_map.mp hnode
  rw [mappedAt_of_node? (hcurrent ▸ hids) hfound,
    mapped_congr (skeleton_remapped document force ids), mapped_mappedIn, id_mappedIn,
    replaceNode_remapped hids horiginal]

theorem foldlM_mappedAt (hids : document.nodeIds.Nodup) (force : Bool) {order : List String}
    (horder : order ⊆ document.nodeIds) (ids : List String) :
    order.foldlM (fun current id => mappedAt current id force) (remapped document force ids) =
      .ok (remapped document force (order.reverse ++ ids)) := by
  induction order generalizing ids with
  | nil => rfl
  | cons id rest ih =>
      obtain ⟨hid, hrest⟩ := List.cons_subset.mp horder
      rw [List.foldlM_cons, mappedAt_remapped hids hid, List.reverse_cons, List.append_assoc]
      exact ih hrest (id :: ids)

/-- Mapping the nodes one after another, each in the document that the others left behind, comes to
the same whatever their order: it is what mapping all of them at once comes to. -/
theorem mapping_order_is_free {document : Document} (hids : document.nodeIds.Nodup) (force : Bool)
    {order : List String} (horder : order.Perm ((targets document).map Node.id)) :
    order.foldlM (fun current id => mappedAt current id force) document =
      .ok (mappedAll document force) := by
  have hknown : order ⊆ document.nodeIds :=
    List.Subset.trans horder.subset (List.map_subset _ List.filter_sublist.subset)
  have hrun := foldlM_mappedAt hids force hknown []
  rw [remapped_nil] at hrun
  rw [hrun, mappedAll_eq_remapped hids]
  refine congrArg Except.ok (remapped_congr fun id => ?_)
  rw [List.append_nil, List.mem_reverse, horder.mem_iff]

/-- The listing is mapped after the step that reads from it. -/
theorem mapping_order_is_free_backwards :
    listingDocument.nodeIds.Nodup ∧
      ["read", "list"].Perm ((targets listingDocument).map Node.id) ∧
      ["read", "list"].foldlM (fun current id => mappedAt current id true) listingDocument =
        .ok (mappedAll listingDocument true) := by
  have hids : listingDocument.nodeIds.Nodup := by decide
  have htargets : (targets listingDocument).map Node.id = ["list", "read"] := by decide +kernel
  have horder : ["read", "list"].Perm ((targets listingDocument).map Node.id) := by
    rw [htargets]
    exact List.Perm.swap "list" "read" []
  exact ⟨hids, horder, mapping_order_is_free hids true horder⟩

/-! ## One round after another -/

theorem mapAll_eq_none
    (hunchanged : ∀ target ∈ targets document, (resolution document force target).changed = false) :
    mapAll document force = none := by
  have hfold (chosen : List Node) (hchosen : chosen ⊆ targets document) :
      chosen.foldl (mapNode document document.stages force) none = none := by
    induction chosen with
    | nil => rfl
    | cons target rest ih =>
        obtain ⟨htarget, hrest⟩ := List.cons_subset.mp hchosen
        rw [List.foldl_cons, mapNode_of_unchanged (hunchanged target htarget)]
        exact ih hrest
  exact hfold _ (List.Subset.refl _)

/-- A round in progress: of the nodes that take part, those still to be mapped are in `rest` and
the others are filled. Ids may repeat, and then a mapped node stands in the place of every node of
its id, so this says nothing of where a node comes from. -/
structure Pending (document : Document) (rest : List Node) (current : Document) : Prop where
  edges_eq : current.edges = document.edges
  filled : ∀ node ∈ current.nodes, takesPart document node = true → Filled node ∨ node ∈ rest

/-- A node of the document after mapping one is that one, mapped, or another node from before. -/
theorem mem_nodes_mapNode {edited : Option Document}
    (hnode : node ∈ ((mapNode document document.stages force edited target).getD document).nodes) :
    node = mapped document force target ∨ node ∈ (edited.getD document).nodes ∧ node ≠ target := by
  cases hchanged : (resolution document force target).changed with
  | true =>
      rw [mapNode_of_changed hchanged] at hnode
      refine (mem_nodes_replaceNode hnode).imp_right fun ⟨hbefore, hid⟩ => ⟨hbefore, ?_⟩
      rintro rfl
      exact hid id_mapped.symm
  | false =>
      rw [mapNode_of_unchanged hchanged] at hnode
      rw [mapped_of_unchanged hchanged]
      exact (em (node = target)).imp_right fun hother => ⟨hnode, hother⟩

theorem Pending.mapNode {edited : Option Document} {rest : List Node}
    (hpending : Pending document (target :: rest) (edited.getD document)) :
    Pending document rest
      ((Mapping.mapNode document document.stages force edited target).getD document) := by
  constructor
  · simp only [Mapping.mapNode]
    split
    · exact hpending.edges_eq
    · exact hpending.edges_eq
  · intro node hnode htakes
    rcases mem_nodes_mapNode hnode with rfl | ⟨hbefore, hother⟩
    · exact Or.inl (filled_mapped document force target)
    · exact (hpending.filled node hbefore htakes).imp_right fun hmem =>
        (List.mem_cons.mp hmem).resolve_left hother

theorem Pending.foldl {edited : Option Document} {rest : List Node}
    (hpending : Pending document rest (edited.getD document)) :
    Pending document []
      ((rest.foldl (Mapping.mapNode document document.stages force) edited).getD document) := by
  induction rest generalizing edited with
  | nil => exact hpending
  | cons target rest ih => exact ih hpending.mapNode

theorem pending_mappedAll (document : Document) (force : Bool) :
    Pending document [] (mappedAll document force) := by
  have hstart : Pending document (targets document) ((none : Option Document).getD document) :=
    ⟨rfl, fun node hnode htakes => Or.inr (List.mem_filter.mpr ⟨hnode, htakes⟩)⟩
  exact hstart.foldl

/-- After a round, whether forced or not, an ordinary one finds nothing to do. -/
theorem mapAll_mappedAll (document : Document) (force : Bool) :
    mapAll (mappedAll document force) false = none := by
  apply mapAll_eq_none
  intro node hnode
  obtain ⟨hmem, htakes⟩ := List.mem_filter.mp hnode
  have hpending := pending_mappedAll document force
  have hsame : takesPart (mappedAll document force) node = takesPart document node := by
    rw [takesPart, takesPart, edgesTo, edgesTo, hpending.edges_eq]
  have hfilled := (hpending.filled node hmem (hsame ▸ htakes)).resolve_right List.not_mem_nil
  exact hfilled.unchanged _

theorem autoMap_eq_none {id : String} (hnode : document.node? id = some node)
    (hunchanged : (resolution document force node).changed = false) :
    autoMap document (some id) force = .ok none := by
  rw [autoMap, requireNode_eq_ok_iff.mpr hnode]
  exact congrArg Except.ok (mapNode_of_unchanged hunchanged)

/-- The node that has the id after mapping the node with that id is filled. -/
theorem filled_of_node?_mapNode {id : String} (htarget : document.node? id = some target)
    (hfound : ((mapNode document document.stages force none target).getD document).node? id =
      some node) : Filled node := by
  have hfilled := filled_mapped document force target
  cases hchanged : (resolution document force target).changed with
  | true =>
      rw [mapNode_of_changed hchanged] at hfound
      obtain ⟨hmem, hid⟩ := mem_of_node? hfound
      rcases mem_nodes_replaceNode hmem with rfl | ⟨-, hother⟩
      · exact hfilled
      · rw [id_mapped, (mem_of_node? htarget).2] at hother
        exact absurd hid hother
  | false =>
      rw [mapNode_of_unchanged hchanged, Option.getD_none, htarget] at hfound
      rw [mapped_of_unchanged hchanged] at hfilled
      exact Option.some.inj hfound ▸ hfilled

/-- After mapping one node, an ordinary mapping of that node finds nothing to do. -/
theorem autoMap_mappedAt {id : String} (hid : id ∈ document.nodeIds) (force : Bool) :
    ∃ next, mappedAt document id force = .ok next ∧ autoMap next (some id) false = .ok none := by
  obtain ⟨target, htarget⟩ := Option.isSome_iff_exists.mp (isSome_node?_iff.mpr hid)
  refine ⟨_, mappedAt_eq_ok htarget force, ?_⟩
  have hkept : ((mapNode document document.stages force none target).getD document).nodeIds =
      document.nodeIds := by
    cases hchanged : (resolution document force target).changed with
    | true => rw [mapNode_of_changed hchanged, Option.getD_some, Option.getD_none,
        nodeIds_replaceNode]
    | false => rw [mapNode_of_unchanged hchanged, Option.getD_none]
  obtain ⟨node, hnode⟩ := Option.isSome_iff_exists.mp (isSome_node?_iff.mpr (hkept ▸ hid))
  exact autoMap_eq_none hnode ((filled_of_node?_mapNode htarget hnode).unchanged _)

/-- With distinct ids, a round finds nothing to do after one of its own kind. -/
theorem mapAll_mappedAll_self (hids : document.nodeIds.Nodup) (force : Bool) :
    mapAll (mappedAll document force) force = none := by
  apply mapAll_eq_none
  rw [mappedAll_eq_remapped hids]
  intro node hnode
  obtain ⟨hmem, htakes⟩ := List.mem_filter.mp hnode
  obtain ⟨original, horiginal, rfl⟩ := List.mem_map.mp hmem
  rw [resolution_congr (skeleton_remapped document force _)]
  rw [takesPart_remapped, ← mem_map_id_targets_iff hids horiginal] at htakes
  rw [mappedIn, if_pos htakes]
  exact unchanged_mapped document force original

theorem mappedIn_forced_alike (document : Document) (ids : List String) (node : Node) :
    (mappedIn (remapped document false ids) true ids (mappedIn document false ids node)).Alike
      (mappedIn document true ids node) := by
  rw [mappedIn, id_mappedIn, mapped_congr (skeleton_remapped document false ids)]
  by_cases hchosen : node.id ∈ ids
  · rw [if_pos hchosen, mappedIn, if_pos hchosen, mappedIn, if_pos hchosen]
    exact mapped_forced_alike document node
  · rw [if_neg hchosen, mappedIn, if_neg hchosen, mappedIn, if_neg hchosen]
    exact Node.Alike.refl node

/-- With distinct ids, a forced round comes to the same with or without an ordinary one before. -/
theorem mappedAll_forced_alike (hids : document.nodeIds.Nodup) :
    (mappedAll (mappedAll document false) true).Alike (mappedAll document true) := by
  have hfirst := mappedAll_eq_remapped hids false
  have hfirstIds : (mappedAll document false).nodeIds.Nodup := by
    rwa [hfirst, nodeIds_remapped]
  rw [mappedAll_eq_remapped hfirstIds, mappedAll_eq_remapped hids true, hfirst,
    map_id_targets_remapped]
  constructor
  · rw [name_remapped, name_remapped, name_remapped]
  · rw [edges_remapped, edges_remapped, edges_remapped]
  · rw [nodes_remapped, nodes_remapped, nodes_remapped, List.forall₂_map_left_iff,
      List.forall₂_map_left_iff, List.forall₂_map_right_iff, List.forall₂_same]
    intro node _
    exact mappedIn_forced_alike document _ node

/-- Mapping reaches a fixed point at once. After a round over the whole document, or over one node,
an ordinary round of the same kind finds nothing to do. With distinct ids, a forced round is
idempotent too, comes to the same whether or not an ordinary round went before, and leaves nothing
for an ordinary one. -/
theorem mapping_reaches_fixedPoint (document : Document) :
    mapAll (mappedAll document false) false = none ∧
      (∀ id ∈ document.nodeIds, ∃ next,
        mappedAt document id false = .ok next ∧ autoMap next (some id) false = .ok none) ∧
      (document.nodeIds.Nodup →
        mapAll (mappedAll document true) true = none ∧
          (mappedAll (mappedAll document false) true).Alike (mappedAll document true) ∧
          mapAll (mappedAll document true) false = none) :=
  ⟨mapAll_mappedAll document false, fun _ hid => autoMap_mappedAt hid false, fun hids =>
    ⟨mapAll_mappedAll_self hids true, mappedAll_forced_alike hids,
      mapAll_mappedAll document true⟩⟩

theorem mapping_reaches_fixedPoint_listing :
    listingDocument.nodeIds.Nodup ∧ "read" ∈ listingDocument.nodeIds ∧
      (∃ next, mappedAt listingDocument "read" false = .ok next ∧
        autoMap next (some "read") false = .ok none) ∧
      mapAll (mappedAll listingDocument true) true = none ∧
      (mappedAll (mappedAll listingDocument false) true).Alike (mappedAll listingDocument true) ∧
      mapAll (mappedAll listingDocument true) false = none := by
  have hids : listingDocument.nodeIds.Nodup := by decide
  have hread : "read" ∈ listingDocument.nodeIds := by decide
  obtain ⟨-, hone, hall⟩ := mapping_reaches_fixedPoint listingDocument
  exact ⟨hids, hread, hone "read" hread, hall hids⟩

end Mapping

end FlowGraph
