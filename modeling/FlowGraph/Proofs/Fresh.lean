/-
# Ids are handed out once

New nodes, new edges, steps and links get their ids from one search, which looks at the candidates
of a sequence one after another until it meets one that is not in use. Nothing in such a search
bounds its tries. This module states it as a relation without any bound, shows that it always ends
with the first free candidate, after at most one try more than there are different used ids, and
that the definitions return just what it ends with. An id that is handed out is in use as long as
what it names is there, so ids stay apart: those of the nodes and those of the edges of a document
along every run of edits, and those of the steps and those of the links in whatever a graph compiles
to. A node and an edge, or a step and a link, may still have the same id: they are never looked up
together.
-/

import FlowGraph.Proofs.Definition.WellFormed
import FlowGraph.Proofs.Edit.Soundness

namespace FlowGraph.Naming

/-! ## The search -/

section Search

variable {candidate : Nat → String} {used : List String}

/-- Looking for a free candidate from this number on ends after so many tries with this one. -/
inductive Search (candidate : Nat → String) (used : List String) : Nat → Nat → String → Prop
  | free {number : Nat} (hfree : candidate number ∉ used) :
      Search candidate used number 1 (candidate number)
  | taken {number tries : Nat} {found : String} (hused : candidate number ∈ used)
      (hlater : Search candidate used (number + 1) tries found) :
      Search candidate used number (tries + 1) found

/-- A search has at most one outcome. -/
theorem Search.unique {number tries otherTries : Nat} {found other : String}
    (hfirst : Search candidate used number tries found)
    (hsecond : Search candidate used number otherTries other) :
    otherTries = tries ∧ other = found := by
  induction hfirst generalizing otherTries with
  | free hfree =>
      cases hsecond with
      | free => exact ⟨rfl, rfl⟩
      | taken hused => exact absurd hused hfree
  | taken hused hlater ih =>
      cases hsecond with
      | free hfree => exact absurd hused hfree
      | taken hused' hlater' =>
          obtain ⟨htries, hfound⟩ := ih hlater'
          exact ⟨by rw [htries], hfound⟩

/-- Used candidates are passed over one by one. -/
theorem search_of_used {number steps : Nat} (hfree : candidate (steps + number) ∉ used)
    (hused : ∀ m, number ≤ m → m < steps + number → candidate m ∈ used) :
    Search candidate used number (steps + 1) (candidate (steps + number)) := by
  induction steps generalizing number with
  | zero =>
      rw [Nat.zero_add number] at hfree ⊢
      exact Search.free hfree
  | succ steps ih =>
      have hnext : steps + 1 + number = steps + (number + 1) := by omega
      rw [hnext] at hfree hused ⊢
      refine Search.taken (hused number (Nat.le_refl number) (by omega)) ?_
      exact ih hfree fun m hm hlt => hused m (by omega) hlt

/-- Searching the candidates from number one on ends with this one: it is the first that is not in
use, no other outcome is possible, and at most one candidate more is tried than there are different
used ids. -/
def FindsFirstFree (candidate : Nat → String) (used : List String) (found : String) : Prop :=
  ∃ number, 1 ≤ number ∧ found = candidate number ∧ found ∉ used ∧
    (∀ m, 1 ≤ m → m < number → candidate m ∈ used) ∧ number ≤ used.dedup.length + 1 ∧
      ∀ tries other, Search candidate used 1 tries other ↔ tries = number ∧ other = found

theorem FindsFirstFree.not_mem {found : String} (hfound : FindsFirstFree candidate used found) :
    found ∉ used := by
  obtain ⟨number, -, -, hfree, -⟩ := hfound
  exact hfree

/-- The search with as many tries to spare as there are used ids finds what the search without a
bound does, if the candidates differ from each other. -/
theorem findsFirstFree_firstFree
    (hinj : ∀ m n, 1 ≤ m → 1 ≤ n → candidate m = candidate n → m = n) :
    FindsFirstFree candidate used (firstFree candidate used used.length 1) := by
  obtain ⟨free, hpos, hbound, hfresh⟩ :
      ∃ n, 1 ≤ n ∧ n ≤ 1 + used.dedup.length ∧ candidate n ∉ used :=
    exists_free_candidate hinj (Nat.le_refl _)
  have hspare : free ≤ 1 + used.length :=
    hbound.trans (Nat.add_le_add_left (List.dedup_sublist used).length_le 1)
  obtain ⟨number, hnumber, -, hfound, hfree, hbefore⟩ :=
    firstFree_spec ⟨free, hpos, hspare, hfresh⟩
  have hfirst : number ≤ free := by
    by_contra hlater
    exact hfresh (hbefore free hpos (by omega))
  have hsearch : Search candidate used 1 number (candidate number) := by
    obtain ⟨steps, rfl⟩ := Nat.exists_eq_add_of_le' hnumber
    exact search_of_used hfree hbefore
  rw [hfound]
  refine ⟨number, hnumber, rfl, hfree, hbefore, by omega, fun tries other => ?_⟩
  constructor
  · exact hsearch.unique
  · rintro ⟨rfl, rfl⟩
    exact hsearch

end Search

/-! ## Candidates -/

/-- The sequence `kind_1`, `kind_2`, …, numbered from one. -/
def numbered (kind : String) (n : Nat) : String := kind ++ "_" ++ numeral n

/-- The name of an edge by its ends and its handle. -/
def edgeBase (source target : String) (handle : Option String) : String :=
  "edge_" ++ source ++ "_" ++ target ++
    (if handle.getD "" = "" then "" else "_" ++ handle.getD "")

theorem nextNodeId_findsFirstFree (kind : String) (used : List String) :
    FindsFirstFree (numbered kind) used (nextNodeId kind used) :=
  findsFirstFree_firstFree fun _ _ _ _ hsame => numbered_inj hsame

theorem unique_findsFirstFree (base : String) (used : List String) :
    FindsFirstFree (suffixed base) used (unique base used) :=
  findsFirstFree_firstFree fun _ _ hm hn hsame => suffixed_inj hm hn hsame

theorem nextEdgeId_findsFirstFree (source target : String) (handle : Option String)
    (used : List String) :
    FindsFirstFree (suffixed (edgeBase source target handle)) used
      (nextEdgeId source target handle used) :=
  unique_findsFirstFree (edgeBase source target handle) used

/-! ## One search after another -/

/-- The ids are handed out one after another: each is found among the forms of a base of its own,
with those before it in use as well. -/
inductive HandedOut : List String → List String → Prop
  | nil (used : List String) : HandedOut used []
  | cons {used later : List String} {id : String} (base : String)
      (hfound : FindsFirstFree (suffixed base) used id) (hlater : HandedOut (used ++ [id]) later) :
      HandedOut used (id :: later)

/-- No id is handed out twice, and none that was in use before. -/
theorem HandedOut.nodup_append {used ids : List String} (hids : HandedOut used ids)
    (hused : used.Nodup) : (used ++ ids).Nodup := by
  induction hids with
  | nil => simpa using hused
  | cons base hfound hlater ih =>
      simpa using ih (by simpa using hused.concat hfound.not_mem)

end FlowGraph.Naming

/-! ## Ids of a definition -/

namespace FlowGraph.Compile

open FlowGraph.Naming

/-- The ids of steps are handed out in the order of the nodes. -/
theorem handedOut_stepIds (used : List String) (index : Nat) (nodes : List Node) :
    HandedOut used ((placements used index nodes).map Placement.stepId) := by
  induction nodes generalizing used index with
  | nil => exact HandedOut.nil used
  | cons node rest ih =>
      rw [placements]
      by_cases hkey : nodeKey node = ""
      · rw [if_pos hkey]
        exact ih used (index + 1)
      · rw [if_neg hkey]
        exact HandedOut.cons _ (unique_findsFirstFree (preferredId index node) used) (ih _ _)

theorem exists_base_of_link? {progress : Progress} {used : List String} {index : Nat} {edge : Edge}
    {link : Link} (hlink : link? progress used index edge = some link) :
    ∃ base, link.id = unique base used := by
  rw [link?] at hlink
  split at hlink
  · split at hlink
    · cases hlink
    · cases hlink
      exact ⟨_, rfl⟩
  · cases hlink

/-- The ids of links are handed out in the order of the edges that they are made of. -/
theorem handedOut_linkIds (progress : Progress) (used : List String) (index : Nat)
    (edges : List Edge) : HandedOut used ((links progress used index edges).map Link.id) := by
  induction edges generalizing used index with
  | nil => exact HandedOut.nil used
  | cons edge rest ih =>
      rw [links]
      cases hlink : link? progress used index edge with
      | none => exact ih used (index + 1)
      | some link =>
          obtain ⟨base, hid⟩ := exists_base_of_link? hlink
          exact HandedOut.cons base (hid ▸ unique_findsFirstFree base used) (ih _ _)

end FlowGraph.Compile

/-! ## Ids of a document -/

namespace FlowGraph

open Document Naming Compile

/-- Ids were only left out, or one came in that was not among them. -/
def GainsFresh (before after : List String) : Prop :=
  after.Sublist before ∨ ∃ id, id ∉ before ∧ after = before ++ [id]

/-- No id is there more often than before, unless it is there just once. -/
def NoneDoubled (before after : List String) : Prop :=
  ∀ id, after.count id ≤ max 1 (before.count id)

variable {before after last : List String}

theorem GainsFresh.refl (ids : List String) : GainsFresh ids ids := Or.inl (List.Sublist.refl ids)

theorem GainsFresh.noneDoubled (hgains : GainsFresh before after) : NoneDoubled before after := by
  intro id
  rcases hgains with hfewer | ⟨new, hnew, rfl⟩
  · exact (hfewer.count_le id).trans (Nat.le_max_right 1 _)
  · rw [List.count_append]
    by_cases hid : id = new
    · subst hid
      rw [List.count_eq_zero_of_not_mem hnew, List.count_singleton_self]
      exact Nat.le_max_left 1 0
    · have hnone : [new].count id = 0 := List.count_eq_zero_of_not_mem (by simpa using hid)
      rw [hnone, Nat.add_zero]
      exact Nat.le_max_right 1 _

theorem NoneDoubled.refl (ids : List String) : NoneDoubled ids ids := fun _ => Nat.le_max_right 1 _

theorem NoneDoubled.trans (hfirst : NoneDoubled before after) (hsecond : NoneDoubled after last) :
    NoneDoubled before last := by
  intro id
  have hbefore := hfirst id
  have hafter := hsecond id
  omega

/-- Ids that are distinct stay so. -/
theorem NoneDoubled.nodup (hnone : NoneDoubled before after) (hids : before.Nodup) :
    after.Nodup := by
  refine List.nodup_iff_count_le_one.mpr fun id => (hnone id).trans (max_le (Nat.le_refl 1) ?_)
  exact List.nodup_iff_count_le_one.mp hids id

namespace Command

/-- What an edit does to the graph gives one new id at most, to a node or to an edge. -/
theorem gainsFresh_of_change {document next : Document} (hchange : Edit.Change document next) :
    GainsFresh document.nodeIds next.nodeIds ∧
      GainsFresh (document.edges.map Edge.id) (next.edges.map Edge.id) := by
  cases hchange with
  | content hsame =>
      rw [hsame.nodeIds_eq, hsame.edges_eq]
      exact ⟨GainsFresh.refl _, GainsFresh.refl _⟩
  | @node node hfresh => exact ⟨Or.inr ⟨node.id, hfresh, List.map_append⟩, GainsFresh.refl _⟩
  | removal nodeId =>
      exact ⟨Or.inl (List.filter_sublist.map _), Or.inl (List.filter_sublist.map _)⟩
  | @edge edge next hadmitted hnew hfresh hsame =>
      rw [hsame.nodeIds_eq, hsame.edges_eq]
      exact ⟨GainsFresh.refl _, Or.inr ⟨edge.id, hfresh, List.map_append⟩⟩
  | disconnection edgeId => exact ⟨GainsFresh.refl _, Or.inl (List.filter_sublist.map _)⟩

variable {document next : Document}

/-- An edit gives one new id at most, to a node or to an edge. -/
theorem gainsFresh_of_run {command : Command} (hedit : command.IsEdit)
    (hok : command.run document = .ok next) :
    GainsFresh document.nodeIds next.nodeIds ∧
      GainsFresh (document.edges.map Edge.id) (next.edges.map Edge.id) := by
  have hoverwritten {next : Document} (hnext : Overwritten document next) :
      GainsFresh document.nodeIds next.nodeIds ∧
        GainsFresh (document.edges.map Edge.id) (next.edges.map Edge.id) := by
    rw [hnext.nodeIds_eq, hnext.edges_eq]
    exact ⟨GainsFresh.refl _, GainsFresh.refl _⟩
  obtain ⟨changed, happlied, rfl⟩ := exists_of_run hok
  cases command with
  | addNode new =>
      obtain ⟨result, hresult, rfl⟩ := exists_of_map_eq_ok happlied
      exact gainsFresh_of_change (Edit.change_addNode hresult)
  | duplicateNode nodeId =>
      obtain ⟨result, hresult, rfl⟩ := exists_of_map_eq_ok happlied
      exact gainsFresh_of_change (Edit.change_duplicateNode hresult)
  | patchNode patch =>
      obtain ⟨result, hresult, rfl⟩ := exists_of_map_eq_ok happlied
      exact hoverwritten (Edit.overwritten_patchNode hresult)
  | deleteNode nodeId =>
      obtain ⟨result, hresult, rfl⟩ := exists_of_map_eq_ok happlied
      exact gainsFresh_of_change (Edit.change_deleteNode hresult)
  | connect source target handle =>
      rcases Edit.connect_cases happlied with hsame | ⟨edge, -, -, hfresh, hnext⟩
      · rw [hsame]
        exact hoverwritten Overwritten.refl
      · rw [hnext.nodeIds_eq, hnext.edges_eq]
        exact ⟨GainsFresh.refl _, Or.inr ⟨edge.id, hfresh, List.map_append⟩⟩
  | disconnect edgeId =>
      cases happlied
      exact gainsFresh_of_change (Edit.change_disconnect edgeId)
  | autoMap nodeId force => exact hoverwritten (Mapping.overwritten_autoMap happlied)
  | rename name =>
      cases happlied
      exact ⟨GainsFresh.refl _, GainsFresh.refl _⟩
  | replace other => exact hedit.elim

end Command

namespace Document

variable {command : Command}

theorem noneDoubled_perform (hedit : command.IsEdit) (document : Document) :
    NoneDoubled document.nodeIds (document.perform command).nodeIds ∧
      NoneDoubled (document.edges.map Edge.id)
        ((document.perform command).edges.map Edge.id) := by
  rw [perform]
  cases hrun : command.run document with
  | error cause => exact ⟨NoneDoubled.refl _, NoneDoubled.refl _⟩
  | ok next =>
      obtain ⟨hnodes, hedges⟩ := Command.gainsFresh_of_run hedit hrun
      exact ⟨hnodes.noneDoubled, hedges.noneDoubled⟩

/-- However a document is edited, no id is given to a second node or to a second edge. -/
theorem noneDoubled_performAll {commands : List Command}
    (hedits : ∀ command ∈ commands, command.IsEdit) (document : Document) :
    NoneDoubled document.nodeIds (document.performAll commands).nodeIds ∧
      NoneDoubled (document.edges.map Edge.id)
        ((document.performAll commands).edges.map Edge.id) := by
  induction commands generalizing document with
  | nil => exact ⟨NoneDoubled.refl _, NoneDoubled.refl _⟩
  | cons command rest ih =>
      obtain ⟨hedit, hrest⟩ := List.forall_mem_cons.mp hedits
      obtain ⟨hnodes, hedges⟩ := noneDoubled_perform hedit document
      obtain ⟨hlaterNodes, hlaterEdges⟩ := ih hrest (document.perform command)
      exact ⟨hnodes.trans hlaterNodes, hedges.trans hlaterEdges⟩

/-- The searches for ids end, with the first candidate that is free and after at most one try more
than there are different used ids. So no run of edits gives an id to a second node or to a second
edge, and a definition hands out the ids of its steps, and those of the links that edges become, one
after another without handing one out twice. -/
theorem fresh_ids_are_first_free :
    (∀ kind used, FindsFirstFree (numbered kind) used (nextNodeId kind used)) ∧
      (∀ source target handle used,
        FindsFirstFree (suffixed (edgeBase source target handle)) used
          (nextEdgeId source target handle used)) ∧
      (∀ base used, FindsFirstFree (suffixed base) used (unique base used)) ∧
      (∀ document : Document, ∀ commands : List Command,
        (∀ command ∈ commands, command.IsEdit) →
          NoneDoubled document.nodeIds (document.performAll commands).nodeIds ∧
            NoneDoubled (document.edges.map Edge.id)
              ((document.performAll commands).edges.map Edge.id)) ∧
      ∀ policy nodes edges definition,
        Compile.definition policy nodes edges = .ok definition →
          HandedOut [] definition.stepIds ∧ HandedOut [] ((drawnLinks nodes edges).map Link.id) ∧
            definition.stepIds.Nodup ∧ (definition.links.map Link.id).Nodup := by
  refine ⟨nextNodeId_findsFirstFree, nextEdgeId_findsFirstFree, unique_findsFirstFree,
    fun document commands hedits => noneDoubled_performAll hedits document,
    fun policy nodes edges definition hok => ?_⟩
  have hsteps : HandedOut [] definition.stepIds := by
    rw [(compiled_of_eq_ok hok).stepIds_eq]
    exact handedOut_stepIds [] 0 nodes
  have hlinks : HandedOut [] ((drawnLinks nodes edges).map Link.id) := by
    rw [← drawnLinks_eq_links]
    exact handedOut_linkIds _ [] 0 edges
  exact ⟨hsteps, hlinks, hsteps.nodup_append List.nodup_nil,
    (wellFormed_of_eq_ok hok).linkIds_distinct⟩

/-- Two nodes come with one id, and two edges have ends that run together. A new step and its copy
follow each other all the same, and compiling tells the two nodes apart as well. -/
theorem fresh_ids_of_lookalike_ends :
    let start : Document :=
      { nodes := ["a_b", "c", "a", "b_c", "ai_1", "ai_1"].map fun id =>
          ({ id, type := "ai", data := { mode := "generate" } } : Node) }
    let edited := start.performAll
      [.connect "a_b" "c" none, .connect "a" "b_c" none, .addNode { type := "ai" },
        .duplicateNode "ai_2"]
    NoneDoubled start.nodeIds edited.nodeIds ∧ (edited.edges.map Edge.id).Nodup ∧
      edited.nodeIds = ["a_b", "c", "a", "b_c", "ai_1", "ai_1", "ai_2", "ai_3"] ∧
      edited.edges.map Edge.id = ["edge_a_b_c", "edge_a_b_c_2"] ∧
      ∃ definition, Compile.definition {} edited.nodes edited.edges = .ok definition ∧
        definition.stepIds = ["a_b", "c", "a", "b_c", "ai_1", "ai_1_2", "ai_2", "ai_3"] ∧
        HandedOut [] definition.stepIds := by
  intro start edited
  obtain ⟨-, -, -, hdocuments, hdefinitions⟩ := fresh_ids_are_first_free
  have hgiven : NoneDoubled start.nodeIds edited.nodeIds ∧
      NoneDoubled (start.edges.map Edge.id) (edited.edges.map Edge.id) :=
    hdocuments start _ (by simp [Command.IsEdit])
  obtain ⟨definition, hok, hsteps⟩ := exists_of_map_eq_ok (show
    Definition.stepIds <$> Compile.definition {} edited.nodes edited.edges =
      .ok ["a_b", "c", "a", "b_c", "ai_1", "ai_1_2", "ai_2", "ai_3"] by decide +kernel)
  exact ⟨hgiven.1, hgiven.2.nodup List.nodup_nil, by decide +kernel, by decide +kernel,
    definition, hok, hsteps, (hdefinitions {} _ _ definition hok).1⟩

end Document

end FlowGraph
