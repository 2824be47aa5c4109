/-
# The rules that a loaded document keeps

Loading drops every edge that breaks a rule: what is left joins two different nodes that exist and
whose types allow it. Ids are another matter. A node or an edge that tells its id keeps it, and any
other is numbered by its place, and neither looks at the ids around it. So an id repeats exactly
when it is told twice, or is told by one and given by its place to another; two that are numbered
never meet. A repeated id of a node is the one structural fault that a loaded document can have.
-/

import FlowGraph.Proofs.Definition.Resave

namespace FlowGraph

open Text

/-- Moving the nodes of a document breaks no rule. -/
theorem Edge.structureFaults_eq_nil_of_unplaced_eq {moved read : Document}
    (hsame : moved.nodes.map Node.unplaced = read.nodes.map Node.unplaced) {edge : Edge}
    (hkept : edge.structureFaults read.nodeTable = []) :
    edge.structureFaults moved.nodeTable = [] := by
  have hbare (document : Document) (id : String) :
      (Fields.get? document.nodeTable id).map Node.unplaced =
        Fields.get? (Fields.ofPairs
          ((document.nodes.map Node.unplaced).map fun node => (node.id, node))) id :=
    (Document.get?_nodeTable_withNodes_map Node.unplaced (fun _ => rfl) id).symm
  have hmoved {id : String} {node : Node} (hnode : Fields.get? read.nodeTable id = some node) :
      ∃ other, Fields.get? moved.nodeTable id = some other ∧ other.unplaced = node.unplaced := by
    have hlookup : (Fields.get? moved.nodeTable id).map Node.unplaced = some node.unplaced := by
      rw [hbare, hsame, ← hbare, hnode, Option.map_some]
    exact Option.map_eq_some_iff.mp hlookup
  obtain ⟨source, target, hsource, htarget, hentered, hleft⟩ :=
    structureFaults_eq_nil_iff.mp hkept
  obtain ⟨newSource, hsource, hsourceSame⟩ := hmoved hsource
  obtain ⟨newTarget, htarget, htargetSame⟩ := hmoved htarget
  exact structureFaults_eq_nil_iff.mpr ⟨newSource, newTarget, hsource, htarget,
    (congrArg Node.isSourceOnly htargetSame).trans hentered,
    (congrArg Node.isTerminalOnly hsourceSame).trans hleft⟩

theorem Document.mem_nodeIds_of_get?_nodeTable {document : Document} {id : String} {node : Node}
    (hfound : Fields.get? document.nodeTable id = some node) : id ∈ document.nodeIds := by
  have hkey : id ∈ Fields.keys document.nodeTable :=
    List.mem_map_of_mem (Fields.mem_of_get? hfound)
  rw [nodeTable, Fields.mem_keys_ofPairs_iff] at hkey
  simpa [Fields.keys, nodeIds] using hkey

namespace Load

/-- What decides the id of something written: the id that it tells, if any, and the kind and the
number that name it otherwise. -/
structure Entry where
  told : String
  kind : String
  number : Nat

namespace Entry

/-- The id of an entry that tells none. -/
def fallback (entry : Entry) : String := entry.kind ++ "_" ++ Naming.numeral entry.number

/-- The id of an entry. -/
def id (entry : Entry) : String := firstText [entry.told, entry.fallback]

/-- No id is told twice, and none that is told is the one of an entry that tells none. -/
structure Clear (entries : List Entry) : Prop where
  told_distinct : ((entries.filter fun entry => entry.told ≠ "").map told).Nodup
  fallback_free : ∀ entry ∈ entries, entry.told = "" → entry.fallback ∉ entries.map told

instance (entries : List Entry) : Decidable (Clear entries) :=
  decidable_of_iff
    (((entries.filter fun entry => entry.told ≠ "").map told).Nodup ∧
      ∀ entry ∈ entries, entry.told = "" → entry.fallback ∉ entries.map told)
    ⟨fun hclear => ⟨hclear.1, hclear.2⟩, fun hclear => ⟨hclear.1, hclear.2⟩⟩

variable {entry : Entry} {entries : List Entry}

theorem id_of_told (htold : entry.told ≠ "") : entry.id = entry.told := by
  simp [id, firstText, htold]

theorem id_of_untold (huntold : entry.told = "") : entry.id = entry.fallback := by
  simp [id, firstText, huntold]

theorem fallback_ne_empty (entry : Entry) : entry.fallback ≠ "" := by simp [fallback]

/-- Entries of different numbers have different ids exactly when they are clear. -/
theorem nodup_map_id_iff (hnumbers : (entries.map number).Nodup) :
    (entries.map id).Nodup ↔ Clear entries := by
  have hentries : entries.Nodup := hnumbers.of_map
  rw [List.nodup_map_iff_inj_on hentries]
  constructor
  · intro hinj
    constructor
    case told_distinct =>
      rw [List.nodup_map_iff_inj_on (hentries.filter _)]
      intro first hfirst second hsecond hsame
      obtain ⟨hfirst, hfirstTold⟩ := List.mem_filter.mp hfirst
      obtain ⟨hsecond, hsecondTold⟩ := List.mem_filter.mp hsecond
      apply hinj first hfirst second hsecond
      rw [id_of_told (by simpa using hfirstTold), id_of_told (by simpa using hsecondTold), hsame]
    case fallback_free =>
      intro entry hentry huntold hmem
      obtain ⟨other, hother, htold⟩ := List.mem_map.mp hmem
      have hfilled : other.told ≠ "" := htold ▸ fallback_ne_empty entry
      have hsame : other = entry := by
        apply hinj other hother entry hentry
        rw [id_of_told hfilled, id_of_untold huntold, htold]
      exact hfilled (hsame ▸ huntold)
  · intro hclear first hfirst second hsecond hsame
    -- two ids that are told, two that are not, or one of each
    by_cases hfirstTold : first.told = "" <;> by_cases hsecondTold : second.told = ""
    · rw [id_of_untold hfirstTold, id_of_untold hsecondTold] at hsame
      exact List.inj_on_of_nodup_map hnumbers hfirst hsecond (Naming.numbered_inj hsame)
    · rw [id_of_untold hfirstTold, id_of_told hsecondTold] at hsame
      exact absurd (hsame ▸ List.mem_map_of_mem hsecond)
        (hclear.fallback_free first hfirst hfirstTold)
    · rw [id_of_told hfirstTold, id_of_untold hsecondTold] at hsame
      exact absurd (hsame ▸ List.mem_map_of_mem hfirst)
        (hclear.fallback_free second hsecond hsecondTold)
    · rw [id_of_told hfirstTold, id_of_told hsecondTold] at hsame
      exact List.inj_on_of_nodup_map hclear.told_distinct
        (List.mem_filter.mpr ⟨hfirst, by simpa using hfirstTold⟩)
        (List.mem_filter.mpr ⟨hsecond, by simpa using hsecondTold⟩) hsame

end Entry

/-- The entry of something written at an index. -/
def entryOf (kind : Value → String) (raw : Value × Nat) : Entry :=
  { told := idOf raw.1, kind := kind raw.1, number := raw.2 + 1 }

/-- The name of the type that a written node is loaded as. -/
def typeOf (raw : Value) : String := (Catalog.standard.resolveKey (rawKey raw)).1

/-- The edges of a written definition. -/
def writtenEdges (definition : Value) : List Value := ((definition.field "edges").asList?).getD []

/-- The entries of the nodes of a definition. -/
def nodeEntries (definition : Value) : List Entry :=
  (writtenNodes definition).zipIdx.map (entryOf typeOf)

/-- The entries of those edges of a definition that were kept. -/
def edgeEntries (definition : Value) (kept : List Edge) : List Entry :=
  ((writtenEdges definition).zipIdx.filter fun raw =>
    (edge? raw.1 raw.2).any fun edge => edge ∈ kept).map (entryOf fun _ => "edge")

/-- Whatever is left of a list, each is numbered differently. -/
theorem nodup_number_entryOf {raws : List Value} {left : List (Value × Nat)}
    (hleft : left.Sublist raws.zipIdx) (kind : Value → String) :
    ((left.map (entryOf kind)).map Entry.number).Nodup := by
  have hindices : (left.map Prod.snd).Nodup := by
    refine List.Nodup.sublist (hleft.map Prod.snd) ?_
    rw [List.zipIdx_map_snd]
    exact List.nodup_range'
  have hnumbers : (left.map (entryOf kind)).map Entry.number = (left.map Prod.snd).map (· + 1) := by
    rw [List.map_map, List.map_map]
    rfl
  rw [hnumbers]
  exact hindices.map (add_left_injective 1)

/-- A written node without an id is numbered by its index. -/
theorem nodeId_ofIndex (raw : Value) (kind : Value → String) (index : Nat) :
    nodeId raw (kind raw) (.ofIndex index) = .ok (entryOf kind (raw, index)).id := by
  rw [nodeId]
  split
  · next hblank =>
    rw [Entry.id_of_untold hblank]
    rfl
  · next hfilled =>
    rw [Entry.id_of_told hfilled]
    rfl

theorem id_of_nodeOf {raw : Value} {index : Nat} {node : Node}
    (hok : nodeOf raw.fields (.ofIndex index) = .ok node) :
    node.id = (entryOf typeOf (raw, index)).id := by
  have hsame : rawKey (.object raw.fields) = rawKey raw := rfl
  obtain ⟨⟨type, mode, implemented⟩, hresolve⟩ : ∃ resolved,
      Catalog.standard.resolveKey (rawKey raw) = resolved := ⟨_, rfl⟩
  rw [nodeOf] at hok
  simp only [hsame, hresolve] at hok
  obtain ⟨found, -, hok⟩ := exists_of_bind_eq_ok hok
  obtain ⟨id, hid, hok⟩ := exists_of_bind_eq_ok hok
  obtain ⟨ref, -, hok⟩ := exists_of_bind_eq_ok hok
  obtain ⟨place, -, hok⟩ := exists_of_bind_eq_ok hok
  have hnumbered := nodeId_ofIndex raw typeOf index
  rw [typeOf, hresolve] at hnumbered
  cases place with
  | bad faults => cases hok
  | ok place =>
      simp only [pure, Except.pure, Except.ok.injEq] at hok
      subst hok
      exact Except.ok.inj (hid.symm.trans hnumbered)

theorem map_id_of_nodes {raws : List Value} {index : Nat} {read : List Node}
    (hok : nodes index raws = .ok read) :
    read.map Node.id = ((raws.zipIdx index).map (entryOf typeOf)).map Entry.id := by
  induction raws generalizing index read with
  | nil =>
      rw [nodes] at hok
      cases hok
      rfl
  | cons raw rest ih =>
      rw [nodes] at hok
      obtain ⟨first, hfirst, hok⟩ := exists_of_bind_eq_ok hok
      obtain ⟨others, hothers, hok⟩ := exists_of_bind_eq_ok hok
      cases hok
      rw [List.zipIdx_cons, List.map_cons, List.map_cons, List.map_cons, id_of_nodeOf hfirst,
        ih hothers]

theorem edge?_eq_some {raw : Value} {index : Nat} {edge : Edge}
    (hread : edge? raw index = some edge) :
    edge.source ≠ edge.target ∧ edge.id = (entryOf (fun _ => "edge") (raw, index)).id := by
  simp only [edge?] at hread
  split at hread
  · cases hread
  · next hends =>
    cases hread
    exact ⟨fun hsame => hends (.inr (.inr hsame)), rfl⟩

theorem edgesFrom_eq_filterMap (index : Nat) (raws : List Value) :
    edgesFrom index raws = (raws.zipIdx index).filterMap fun raw => edge? raw.1 raw.2 := by
  induction raws generalizing index with
  | nil => rfl
  | cons raw rest ih =>
      rw [edgesFrom, List.zipIdx_cons, List.filterMap_cons, ih]
      cases edge? raw index <;> rfl

/-- The ids of those edges that are kept are those of their entries. -/
theorem map_id_filter_edges (keep : Edge → Bool) (raws : List (Value × Nat)) :
    ((raws.filterMap fun raw => edge? raw.1 raw.2).filter keep).map Edge.id =
      ((raws.filter fun raw => (edge? raw.1 raw.2).any keep).map
        (entryOf fun _ => "edge")).map Entry.id := by
  induction raws with
  | nil => rfl
  | cons raw rest ih =>
      rw [List.filterMap_cons, List.filter_cons]
      cases hread : edge? raw.1 raw.2 with
      | none => simpa using ih
      | some edge =>
          rw [Option.any_some, List.filter_cons]
          split
          · rw [List.map_cons, List.map_cons, List.map_cons, ih, (edge?_eq_some hread).2]
          · exact ih

/-- A document is what was read, up to the places of its nodes, with the edges that are kept. -/
theorem exists_read_of_document {definition : Value} {title : String} {document : Document}
    (hload : Load.document definition title = .ok document) :
    ∃ read : List Node, document.nodes.map Node.unplaced = read.map Node.unplaced ∧
      document.edges = connectable read (edges (definition.field "edges")) ∧
      (nodes 0 (writtenNodes definition) = .ok read ∨
        writtenNodes definition = [] ∧ read = (Document.blank title).nodes) := by
  obtain ⟨read, hread, hload⟩ := exists_of_bind_eq_ok hload
  cases read with
  | nil =>
      cases hload
      exact ⟨_, rfl, rfl, .inr ⟨List.forall₂_nil_right_iff.mp (reads_of_nodes hread), rfl⟩⟩
  | cons first rest =>
      obtain ⟨laid, -, hload⟩ := exists_of_bind_eq_ok hload
      cases hload
      refine ⟨first :: rest, ?_, rfl, .inl hread⟩
      cases laid with
      | false => rfl
      | true => exact Layout.map_unplaced_place _ _ _

section Loaded

variable {definition : Value} {title : String} {document : Document}
  (hload : Load.document definition title = .ok document)

include hload

theorem structureFaults_of_mem_edges {edge : Edge} (hedge : edge ∈ document.edges) :
    edge.structureFaults document.nodeTable = [] := by
  obtain ⟨read, hnodes, hedges, -⟩ := exists_read_of_document hload
  rw [hedges, connectable_eq_filter, List.mem_filter, decide_eq_true_iff] at hedge
  exact Edge.structureFaults_eq_nil_of_unplaced_eq hnodes hedge.2

theorem ends_ne_of_mem_edges {edge : Edge} (hedge : edge ∈ document.edges) :
    edge.source ≠ edge.target := by
  obtain ⟨read, -, hedges, -⟩ := exists_read_of_document hload
  rw [hedges, connectable_eq_filter] at hedge
  have hread := (List.mem_filter.mp hedge).1
  rw [edges, edgesFrom_eq_filterMap] at hread
  obtain ⟨raw, -, hraw⟩ := List.mem_filterMap.mp hread
  exact (edge?_eq_some hraw).1

theorem ends_exist_of_mem_edges {edge : Edge} (hedge : edge ∈ document.edges) :
    edge.source ∈ document.nodeIds ∧ edge.target ∈ document.nodeIds := by
  obtain ⟨source, target, hsource, htarget, -⟩ :=
    Edge.structureFaults_eq_nil_iff.mp (structureFaults_of_mem_edges hload hedge)
  exact ⟨Document.mem_nodeIds_of_get?_nodeTable hsource,
    Document.mem_nodeIds_of_get?_nodeTable htarget⟩

/-- The only structural faults of a loaded document are ids that repeat. -/
theorem structureFaults_eq :
    document.structureFaults = (repeatedIds [] document.nodeIds).map .repeatedId := by
  have hnone : document.edges.flatMap (Edge.structureFaults document.nodeTable) = [] :=
    List.flatMap_eq_nil_iff.mpr fun _ hedge => structureFaults_of_mem_edges hload hedge
  rw [Document.structureFaults, hnone, List.append_nil]

theorem nodup_nodeIds_iff : document.nodeIds.Nodup ↔ Entry.Clear (nodeEntries definition) := by
  obtain ⟨read, hnodes, -, hread⟩ := exists_read_of_document hload
  have hids : document.nodeIds = read.map Node.id := by
    have hunplaced (nodes : List Node) :
        nodes.map Node.id = (nodes.map Node.unplaced).map Node.id := by
      rw [List.map_map]
      rfl
    rw [Document.nodeIds, hunplaced, hnodes, ← hunplaced]
  rcases hread with hread | ⟨hnone, rfl⟩
  · rw [hids, map_id_of_nodes hread, nodeEntries, Entry.nodup_map_id_iff]
    exact nodup_number_entryOf (List.Sublist.refl _) typeOf
  · -- without nodes the document is a blank one
    rw [hids, nodeEntries, hnone]
    exact ⟨fun _ => by decide, fun _ => by simp [Document.blank]⟩

theorem nodup_edgeIds_iff : (document.edges.map Edge.id).Nodup ↔
    Entry.Clear (edgeEntries definition document.edges) := by
  obtain ⟨read, -, hedges, -⟩ := exists_read_of_document hload
  rw [connectable_eq_filter, edges, edgesFrom_eq_filterMap] at hedges
  have hids : document.edges.map Edge.id =
      (edgeEntries definition document.edges).map Entry.id := by
    conv_lhs => rw [hedges, map_id_filter_edges]
    rw [edgeEntries]
    -- what is kept is told by the edges that were kept
    refine congrArg (fun left => (List.map (entryOf fun _ => "edge") left).map Entry.id)
      (List.filter_congr fun raw hraw => ?_)
    cases hread : edge? raw.1 raw.2 with
    | none => rfl
    | some edge =>
        have hmem : edge ∈ (writtenEdges definition).zipIdx.filterMap
            fun raw => edge? raw.1 raw.2 := List.mem_filterMap.mpr ⟨raw, hraw, hread⟩
        rw [Option.any_some, Option.any_some, Bool.eq_iff_iff, decide_eq_true_iff,
          decide_eq_true_iff, hedges, List.mem_filter, decide_eq_true_iff]
        exact ⟨fun hkept => ⟨hmem, hkept⟩, fun hkept => hkept.2⟩
  rw [hids, Entry.nodup_map_id_iff]
  exact nodup_number_entryOf List.filter_sublist _

end Loaded

end Load

namespace Document

/-- The document keeps the structural rules, and its validation finds no fault. -/
structure Orderly (document : Document) : Prop where
  nodes_distinct : document.nodeIds.Nodup
  edges_distinct : (document.edges.map Edge.id).Nodup
  ends_differ : ∀ edge ∈ document.edges, edge.source ≠ edge.target
  ends_exist : ∀ edge ∈ document.edges,
    edge.source ∈ document.nodeIds ∧ edge.target ∈ document.nodeIds
  ends_admit : ∀ edge ∈ document.edges, ∀ node ∈ document.nodes,
    (node.id = edge.target → node.isSourceOnly = false) ∧
      (node.id = edge.source → node.isTerminalOnly = false)
  faultless : document.structureFaults = []

/-- Whatever a definition holds, the document that it loads as has edges between different nodes
that exist, and no structural faults but ids that repeat. It keeps all structural rules exactly when
no id of a node and no id of an edge that is kept is told twice or given by its place to another. -/
theorem orderly_iff_of_loaded {definition : Value} {title : String} {document : Document}
    (hload : Load.document definition title = .ok document) :
    (document.Orderly ↔ Load.Entry.Clear (Load.nodeEntries definition) ∧
      Load.Entry.Clear (Load.edgeEntries definition document.edges)) ∧
    (∀ edge ∈ document.edges, edge.source ≠ edge.target ∧
      edge.source ∈ document.nodeIds ∧ edge.target ∈ document.nodeIds) ∧
    document.structureFaults = (repeatedIds [] document.nodeIds).map .repeatedId := by
  have hnodes := Load.nodup_nodeIds_iff hload
  have hedges := Load.nodup_edgeIds_iff hload
  refine ⟨⟨fun horderly => ?_, fun ⟨hnodesClear, hedgesClear⟩ => ?_⟩, fun edge hedge => ?_,
    Load.structureFaults_eq hload⟩
  · exact ⟨hnodes.mp horderly.nodes_distinct, hedges.mp horderly.edges_distinct⟩
  · have hdistinct := hnodes.mpr hnodesClear
    constructor
    case nodes_distinct => exact hdistinct
    case edges_distinct => exact hedges.mpr hedgesClear
    case ends_differ => exact fun edge => Load.ends_ne_of_mem_edges hload
    case ends_exist => exact fun edge => Load.ends_exist_of_mem_edges hload
    case ends_admit =>
      intro edge hedge node hnode
      obtain ⟨source, target, hsource, htarget, hentered, hleft⟩ :=
        Edge.structureFaults_eq_nil_iff.mp (Load.structureFaults_of_mem_edges hload hedge)
      have hfound := (get?_nodeTable_iff hdistinct).mpr ⟨hnode, rfl⟩
      constructor
      · intro hsame
        rw [hsame, htarget] at hfound
        exact Option.some.inj hfound ▸ hentered
      · intro hsame
        rw [hsame, hsource] at hfound
        exact Option.some.inj hfound ▸ hleft
    case faultless =>
      rw [Load.structureFaults_eq hload, repeatedIds_eq_nil_iff.mpr ⟨hdistinct, by simp⟩]
      rfl
  · exact ⟨Load.ends_ne_of_mem_edges hload hedge, Load.ends_exist_of_mem_edges hload hedge⟩

/-- A definition of steps with these ids and of edges with these ids and ends. -/
def prompts (ids : List String) (edges : List (String × String × String)) : Value :=
  .object
    [("nodes", .list (ids.map fun id =>
        .object [("id", .text id), ("node_type", .text "ai.prompt")])),
     ("edges", .list (edges.map fun (id, source, target) =>
        .object [("id", .text id), ("from", .text source), ("to", .text target)]))]

/-- A step and an edge that tell no ids. -/
def untold : Value := prompts ["first", ""] [("", "first", "ai_2")]

theorem untold_is_orderly :
    ∃ document, Load.document untold "Draft" = .ok document ∧
      document.nodeIds = ["first", "ai_2"] ∧ document.edges.map Edge.id = ["edge_1"] ∧
      document.Orderly := by
  obtain ⟨hshown, hnodesClear⟩ :
      (Load.document untold "Draft").map (fun document =>
          (document.nodeIds, document.edges.map Edge.id,
            decide (Load.Entry.Clear (Load.edgeEntries untold document.edges)))) =
        .ok (["first", "ai_2"], ["edge_1"], true) ∧
      Load.Entry.Clear (Load.nodeEntries untold) := by decide +kernel
  cases hload : Load.document untold "Draft" with
  | error failure =>
      rw [hload] at hshown
      cases hshown
  | ok document =>
      rw [hload] at hshown
      obtain ⟨hids, hshown⟩ := Prod.mk.inj (Except.ok.inj hshown)
      obtain ⟨hedges, hedgesClear⟩ := Prod.mk.inj hshown
      exact ⟨document, rfl, hids, hedges,
        (orderly_iff_of_loaded hload).1.mpr ⟨hnodesClear, of_decide_eq_true hedgesClear⟩⟩

/-- A step that is numbered gets the id that another one tells, and the document has a fault; and
the same happens to edges. -/
theorem numbered_ids_repeat :
    (Load.document (prompts ["ai_2", ""] []) "Draft").map
        (fun document => (document.nodeIds, document.structureFaults)) =
      .ok (["ai_2", "ai_2"], [.repeatedId "ai_2"]) ∧
    (Load.document (prompts ["first", "second"] [("edge_2", "first", "second"),
        ("", "second", "first")]) "Draft").map (fun document => document.edges.map Edge.id) =
      .ok ["edge_2", "edge_2"] := by
  decide +kernel

end Document

end FlowGraph
