/-
# Edges as they are reported

A report looks a link up by the two nodes that an edge names. It so finds the first link between
their steps, which need not be the one that the edge became: edges that leave a node by different
handles may enter the same node. And it looks for the ends as they are written, whereas compiling
trims them first. An edge that is dropped is always reported as dropped. Any other one is reported
as it was compiled exactly when its ends are written as the ids of their nodes are, and the first
edge between the same nodes is followed under the same condition.
-/

import FlowGraph.Proofs.Definition.Flow
import FlowGraph.Proofs.Definition.Translation
import FlowGraph.Proofs.Trim
import FlowGraph.Written

namespace FlowGraph

open Compile Text

namespace Report

/-- The entry tells how the link that an edge became is followed, in kind and in words. -/
structure Tells (entry : EdgeReport) (link : Option Link) : Prop where
  name_eq : wiringName entry.wiring = wiringName (wiringOf link)
  text_eq : wiringText entry.wiring = wiringText (wiringOf link)

theorem eq_of_wiringText_route_eq {key other : String}
    (htext : wiringText (.route key) = wiringText (.route other)) : key = other := by
  have hwords (key : String) :
      wiringText (.route key) = "Taken when the route equals \"" ++ key ++ "\"" := rfl
  have hchars := congrArg String.toList htext
  rw [hwords, hwords, String.toList_append, String.toList_append, String.toList_append,
    String.toList_append] at hchars
  exact String.toList_injective (List.append_cancel_left (List.append_cancel_right hchars))

/-- Kind and words together determine a wiring. -/
theorem wiring_eq_of_text_eq {first second : Wiring} (hname : wiringName first = wiringName second)
    (htext : wiringText first = wiringText second) : first = second := by
  cases first with
  | dropped => cases second <;> simp [wiringName] at hname; rfl
  | always => cases second <;> simp [wiringName] at hname; rfl
  | route key =>
      cases second with
      | route other => rw [eq_of_wiringText_route_eq htext]
      | dropped => simp [wiringName] at hname
      | always => simp [wiringName] at hname

theorem tells_iff {entry : EdgeReport} {link : Option Link} :
    Tells entry link ↔ entry.wiring = wiringOf link :=
  ⟨fun htells => wiring_eq_of_text_eq htells.name_eq htells.text_eq,
    fun hsame => ⟨congrArg wiringName hsame, congrArg wiringText hsame⟩⟩

theorem wiringOf_some_inj {first second : Link} :
    wiringOf (some first) = wiringOf (some second) ↔ first.condition = second.condition := by
  simp only [wiringOf]
  cases first.condition <;> cases second.condition <;> simp

theorem wiringOf_eq_dropped_iff {link : Option Link} : wiringOf link = .dropped ↔ link = none := by
  cases link with
  | none => simp [wiringOf]
  | some link => cases hcondition : link.condition <;> simp [wiringOf, hcondition]

theorem isRouted_eq_any {entry : EdgeReport} {link : Option Link}
    (hsame : entry.wiring = wiringOf link) :
    EdgeReport.isRouted entry = link.any Link.isRouted := by
  rw [EdgeReport.isRouted, hsame]
  cases link with
  | none => rfl
  | some link => cases hcondition : link.condition <;> simp [wiringOf, Link.isRouted, hcondition]

end Report

namespace Document

/-- The ids of nodes are written without blanks around them, and are distinct and not empty. -/
structure PlainIds (document : Document) : Prop where
  trimmed : ∀ node ∈ document.nodes, trim node.id = node.id
  distinct : document.nodeIds.Nodup
  filled : ∀ node ∈ document.nodes, node.id ≠ ""

/-- The ends of an edge are written without blanks around them. -/
def PlainEnds (edge : Edge) : Prop :=
  trim edge.source = edge.source ∧ trim edge.target = edge.target

/-- The two edges run between the same nodes. -/
def sameNodes (first second : Edge) : Bool :=
  trim first.source = trim second.source && trim first.target = trim second.target

/-- The first edge between the nodes that an edge joins. -/
def firstBetween? (document : Document) (edge : Edge) : Option Edge :=
  document.edges.find? fun other => sameNodes other edge

/-- An edge has plain ends, and the first edge between its nodes is followed under the same
condition. -/
def StandsForItself (document : Document) (edge : Edge) : Prop :=
  PlainEnds edge ∧ ∀ first ∈ document.firstBetween? edge,
    conditionOf (placed document.nodes) first = conditionOf (placed document.nodes) edge

instance (document : Document) (edge : Edge) : Decidable (document.StandsForItself edge) :=
  inferInstanceAs (Decidable
    ((trim edge.source = edge.source ∧ trim edge.target = edge.target) ∧
      ∀ first ∈ document.firstBetween? edge,
        conditionOf (placed document.nodes) first = conditionOf (placed document.nodes) edge))

end Document

namespace Compile

/-- The link runs between the steps of the two nodes. -/
def runsBetween (source target : Placement) (link : Link) : Bool :=
  link.source = source.stepId && link.target = target.stepId

end Compile

namespace Report

section LinkOf

variable {nodes : List Node} {edges : List Edge} {definition : Definition} {edge : Edge}

theorem linkOf_eq (hcompiled : Compiled nodes edges definition) (edge : Edge) :
    linkOf definition.links definition.idMap edge =
      match owner? (placed nodes) edge.source, owner? (placed nodes) edge.target with
      | some source, some target => definition.links.find? (runsBetween source target)
      | _, _ => none := by
  rw [linkOf, hcompiled.idMap_eq, get?_ofPairs_owner, get?_ofPairs_owner]
  cases owner? (placed nodes) edge.source with
  | none => rfl
  | some source => cases owner? (placed nodes) edge.target <;> rfl

/-- A link that is found runs between the steps of two different nodes, which the ends of the edge
name as they are written. -/
theorem exists_owners_of_linkOf (hcompiled : Compiled nodes edges definition) {link : Link}
    (hfound : linkOf definition.links definition.idMap edge = some link) :
    ∃ source target, owner? (placed nodes) edge.source = some source ∧
      owner? (placed nodes) edge.target = some target ∧ source.stepId ≠ target.stepId := by
  rw [linkOf_eq hcompiled] at hfound
  split at hfound
  · rename_i source target hsource htarget
    have hends : link.source = source.stepId ∧ link.target = target.stepId := by
      simpa [runsBetween] using List.find?_some hfound
    have hdiffer := hcompiled.source_ne_target (List.mem_of_find?_eq_some hfound)
    rw [hends.1, hends.2] at hdiffer
    exact ⟨source, target, hsource, htarget, hdiffer⟩
  · cases hfound

end LinkOf

end Report

namespace Document

variable {document : Document} {definition : Definition} {pair : Edge × Option Link}

namespace PlainIds

variable (hplain : document.PlainIds)

include hplain

theorem trim_ne {node : Node} (hnode : node ∈ document.nodes) : trim node.id ≠ "" := by
  rw [hplain.trimmed node hnode]
  exact hplain.filled node hnode

/-- What an executed node is known by has no blanks around it. -/
theorem trim_eq_of_owner? {id : String} {owner : Placement}
    (howner : owner? (placed document.nodes) id = some owner) : trim id = id := by
  obtain ⟨hplaced, rfl⟩ := mem_of_owner? howner
  rw [canvas_of_mem_placements (fun node hnode => hplain.trim_ne hnode) hplaced, trim_trim]

/-- Only an edge with plain ends that became a link is found again. -/
theorem joined?_ne_none_of_linkOf (hcompiled : Compiled document.nodes document.edges definition)
    {edge : Edge} {link : Link}
    (hfound : Report.linkOf definition.links definition.idMap edge = some link) :
    PlainEnds edge ∧ joined? (placed document.nodes) edge ≠ none := by
  obtain ⟨source, target, hsource, htarget, hdiffer⟩ :=
    Report.exists_owners_of_linkOf hcompiled hfound
  have hends : PlainEnds edge :=
    ⟨hplain.trim_eq_of_owner? hsource, hplain.trim_eq_of_owner? htarget⟩
  refine ⟨hends, ?_⟩
  rw [joined?, hends.1, hends.2, hsource, htarget]
  simp [hdiffer]

end PlainIds

/-- Edges become links between the same two steps exactly when they run between the same nodes. -/
theorem any_runsBetween_of_mem_translated
    (hpair : pair ∈ translated document.nodes document.edges) {edge : Edge}
    {source target : Placement}
    (hjoined : joined? (placed document.nodes) edge = some (source, target)) :
    pair.2.any (runsBetween source target) = sameNodes pair.1 edge := by
  obtain ⟨hsource, htarget, hdiffer⟩ := joined?_eq_some_iff.mp hjoined
  have hends := ends_of_mem_translated hpair
  rw [Bool.eq_iff_iff]
  constructor
  · intro hany
    obtain ⟨link, hlink, hsame⟩ := (Option.any_eq_true _ _).mp hany
    obtain ⟨hlinkSource, hlinkTarget⟩ :
        link.source = source.stepId ∧ link.target = target.stepId := by
      simpa [runsBetween] using hsame
    rw [hlink, Option.map_some] at hends
    obtain ⟨other, hother, hsteps⟩ := Option.map_eq_some_iff.mp hends.symm
    obtain rfl : other = (source, target) := pair_eq_of_steps_eq (mem_placed_of_joined? hother)
      (mem_placed_of_joined? hjoined)
      (hsteps.trans (Prod.ext hlinkSource hlinkTarget))
    obtain ⟨hotherSource, hotherTarget, -⟩ := joined?_eq_some_iff.mp hother
    simp [sameNodes, ← (mem_of_owner? hotherSource).2, ← (mem_of_owner? hotherTarget).2,
      ← (mem_of_owner? hsource).2, ← (mem_of_owner? htarget).2]
  · intro hsame
    obtain ⟨hsourceSame, htargetSame⟩ : trim pair.1.source = trim edge.source ∧
        trim pair.1.target = trim edge.target := by simpa [sameNodes] using hsame
    have hother : joined? (placed document.nodes) pair.1 = some (source, target) :=
      joined?_eq_some_iff.mpr ⟨hsourceSame ▸ hsource, htargetSame ▸ htarget, hdiffer⟩
    rw [hother, Option.map_some] at hends
    obtain ⟨link, hlink, hsteps⟩ := Option.map_eq_some_iff.mp hends
    obtain ⟨hlinkSource, hlinkTarget⟩ := Prod.mk.inj hsteps
    simp [hlink, runsBetween, hlinkSource, hlinkTarget]

/-- An edge with plain ends that became a link is reported by the link of the first edge between
its nodes. -/
theorem exists_linkOf_of_mem_translated {policy : Policy}
    (hcompile : document.compile policy = .ok definition)
    (hpair : pair ∈ translated document.nodes document.edges) {link : Link}
    (hlink : pair.2 = some link) (hends : PlainEnds pair.1) :
    ∃ first found, document.firstBetween? pair.1 = some first ∧
      Report.linkOf definition.links definition.idMap pair.1 = some found ∧
      found.condition = conditionOf (placed document.nodes) first := by
  have hcompiled := compiled_of_eq_ok hcompile
  have hjoins : joined? (placed document.nodes) pair.1 ≠ none := by
    rw [Ne, joined?_eq_none_iff_of_mem hpair, hlink]
    exact Option.some_ne_none link
  obtain ⟨⟨source, target⟩, hjoined⟩ := Option.ne_none_iff_exists'.mp hjoins
  obtain ⟨hsource, htarget, -⟩ := joined?_eq_some_iff.mp hjoined
  -- the search among the links and the search among the edges stop at the same place
  have hsearch : (translated document.nodes document.edges).find?
        (fun other => other.2.any (runsBetween source target)) =
      (translated document.nodes document.edges).find? fun other => sameNodes other.1 pair.1 := by
    rw [← List.head?_filter, ← List.head?_filter]
    exact congrArg List.head? (List.filter_congr fun other hother =>
      any_runsBetween_of_mem_translated hother hjoined)
  obtain ⟨first, hfirst⟩ : ∃ first, (translated document.nodes document.edges).find?
      (fun other => sameNodes other.1 pair.1) = some first :=
    Option.isSome_iff_exists.mp
      (List.find?_isSome.mpr ⟨pair, hpair, by simp [sameNodes]⟩)
  rw [hfirst] at hsearch
  obtain ⟨found, hfound, -⟩ : ∃ found, first.2 = some found ∧ runsBetween source target found :=
    (Option.any_eq_true _ _).mp
      (List.find?_some (p := fun other : Edge × Option Link =>
        other.2.any (runsBetween source target)) hsearch)
  have hbetween : document.firstBetween? pair.1 = some first.1 := by
    calc document.firstBetween? pair.1
        = ((translated document.nodes document.edges).map Prod.fst).find?
            fun other => sameNodes other pair.1 := by rw [map_fst_translated, firstBetween?]
      _ = some first.1 := by rw [List.find?_map, Function.comp_def, hfirst, Option.map_some]
  have hlinks : definition.links = drawnLinks document.nodes document.edges := by
    rw [links_of_eq_ok hcompile, if_neg]
    exact List.ne_nil_of_mem (List.mem_filterMap.mpr ⟨pair, hpair, hlink⟩)
  refine ⟨first.1, found, hbetween, ?_, ?_⟩
  · rw [Report.linkOf_eq hcompiled, ← hends.1, ← hends.2, hsource, htarget]
    simp only [hlinks, drawnLinks, List.find?_filterMap, hsearch, Option.bind_some, hfound]
  · exact condition_of_mem_translated (List.mem_of_find?_eq_some hfirst) hfound

/-- What the report says of an edge that was compiled: it tells the fate of the edge exactly when
the edge is dropped or stands for itself. -/
theorem tells_iff_of_mem_translated (hplain : document.PlainIds) {policy : Policy}
    (hcompile : document.compile policy = .ok definition)
    (hpair : pair ∈ translated document.nodes document.edges) :
    Report.Tells (Report.edgeReport document definition.links definition.idMap pair.1) pair.2 ↔
      (pair.2 ≠ none → document.StandsForItself pair.1) := by
  have hcompiled := compiled_of_eq_ok hcompile
  rw [Report.tells_iff, Report.edgeReport]
  cases hlink : pair.2 with
  | none =>
      have hnone : joined? (placed document.nodes) pair.1 = none :=
        (joined?_eq_none_iff_of_mem hpair).mpr hlink
      have hmissed : Report.linkOf definition.links definition.idMap pair.1 = none := by
        by_contra hfound
        obtain ⟨link, hfound⟩ := Option.ne_none_iff_exists'.mp hfound
        exact (hplain.joined?_ne_none_of_linkOf hcompiled hfound).2 hnone
      simp [hmissed]
  | some link =>
      have hcondition := condition_of_mem_translated hpair hlink
      simp only [ne_eq, reduceCtorEq, not_false_eq_true, forall_const]
      by_cases hends : PlainEnds pair.1
      · obtain ⟨first, found, hfirst, hfound, hfoundCondition⟩ :=
          exists_linkOf_of_mem_translated hcompile hpair hlink hends
        rw [hfound, Report.wiringOf_some_inj, hfoundCondition, hcondition, StandsForItself, hfirst]
        simp [hends]
      · have hmissed : Report.linkOf definition.links definition.idMap pair.1 = none := by
          by_contra hfound
          obtain ⟨other, hfound⟩ := Option.ne_none_iff_exists'.mp hfound
          exact hends (hplain.joined?_ne_none_of_linkOf hcompiled hfound).1
        have hdropped : Report.wiringOf (some link) ≠ .dropped := by
          simp [Report.wiringOf_eq_dropped_iff]
        rw [hmissed]
        exact ⟨fun hsame => absurd hsame.symm hdropped, fun hstands => absurd hstands.1 hends⟩

end Document

namespace Report

variable {policy : Policy} {document : Document} {report : Report}

/-- What a report says of a document: its issues and faults as they are, what compiling it yields,
and its edges by the links and the table of the definition, if there is one. -/
structure Describes (policy : Policy) (document : Document) (report : Report) : Prop where
  issues_eq : report.issues = Readiness.issues document
  faults_eq : report.faults = document.structureFaults
  definition_eq : report.definition = document.compile policy
  outcome : (∃ definition, report.definition = .ok definition) ∨
    report.definition = .error .nothingToCompile ∧ placed document.nodes = []
  edges_eq : report.edges = document.edges.map fun edge =>
    match report.definition with
    | .ok definition => edgeReport document definition.links definition.idMap edge
    | .error _ => edgeReport document [] [] edge

theorem describes_of_eq_ok (hreport : Report.of policy document = .ok report) :
    Describes policy document report := by
  rw [Report.of] at hreport
  rcases definition_cases policy document.nodes document.edges with
    ⟨definition, hcompile⟩ | ⟨hcompile, hplaced⟩ | hcompile
  · rw [← Document.compile] at hcompile
    simp only [hcompile] at hreport
    obtain ⟨⟨links, idMap⟩, hlinks, hreport⟩ := exists_of_bind_eq_ok hreport
    obtain ⟨nodes, -, hreport⟩ := exists_of_bind_eq_ok hreport
    cases hlinks
    cases hreport
    exact ⟨rfl, rfl, hcompile.symm, .inl ⟨definition, rfl⟩, rfl⟩
  · rw [← Document.compile] at hcompile
    simp only [hcompile] at hreport
    obtain ⟨⟨links, idMap⟩, hlinks, hreport⟩ := exists_of_bind_eq_ok hreport
    obtain ⟨nodes, -, hreport⟩ := exists_of_bind_eq_ok hreport
    cases hlinks
    cases hreport
    exact ⟨rfl, rfl, hcompile.symm, .inr ⟨rfl, hplaced⟩, rfl⟩
  · rw [← Document.compile] at hcompile
    simp only [hcompile] at hreport
    cases hreport

/-- Every edge is reported, in order. The report tells what compiling made of it exactly when it is
dropped or stands for itself; and if every edge that becomes a link stands for itself, the figure of
routed edges counts those whose link is followed on a route. -/
theorem edges_told_iff (hplain : document.PlainIds)
    (hreport : Report.of policy document = .ok report) :
    List.Forall₂ (fun entry pair => entry.edge = pair.1 ∧
        (Tells entry pair.2 ↔ (pair.2 ≠ none → document.StandsForItself pair.1)))
      report.edges (translated document.nodes document.edges) ∧
    (∀ definition, report.definition = .ok definition → definition.links =
      if drawnLinks document.nodes document.edges = [] then chain definition.stepIds
      else drawnLinks document.nodes document.edges) ∧
    ((∀ pair ∈ translated document.nodes document.edges,
        pair.2 ≠ none → document.StandsForItself pair.1) →
      report.routedCount = ((translated document.nodes document.edges).filter fun pair =>
        pair.2.any Link.isRouted).length) := by
  have hdescribes := describes_of_eq_ok hreport
  obtain ⟨entryOf, hedges, htold⟩ : ∃ entryOf : Edge → EdgeReport,
      report.edges = document.edges.map entryOf ∧
        ∀ pair ∈ translated document.nodes document.edges, (entryOf pair.1).edge = pair.1 ∧
          (Tells (entryOf pair.1) pair.2 ↔ (pair.2 ≠ none → document.StandsForItself pair.1)) := by
    have hedges := hdescribes.edges_eq
    rcases hdescribes.outcome with ⟨definition, hdefinition⟩ | ⟨hdefinition, hplaced⟩
    · rw [hdefinition] at hedges
      have hcompile : document.compile policy = .ok definition :=
        hdescribes.definition_eq.symm.trans hdefinition
      exact ⟨_, hedges, fun pair hpair =>
        ⟨rfl, Document.tells_iff_of_mem_translated hplain hcompile hpair⟩⟩
    · rw [hdefinition] at hedges
      refine ⟨_, hedges, fun pair hpair => ⟨rfl, ?_⟩⟩
      -- without executed nodes every edge is dropped
      have hnone : pair.2 = none := by
        rw [← joined?_eq_none_iff_of_mem hpair, hplaced]
        rfl
      have hmissed : linkOf [] [] pair.1 = none := rfl
      simp [tells_iff, edgeReport, hnone, hmissed]
  rw [← map_fst_translated document.nodes document.edges, List.map_map] at hedges
  refine ⟨?_, fun definition hdefinition => links_of_eq_ok
    (hdescribes.definition_eq.symm.trans hdefinition), fun hstands => ?_⟩
  · rw [hedges, List.forall₂_map_left_iff, List.forall₂_same]
    exact htold
  · rw [routedCount, hedges, List.filter_map, List.length_map]
    refine congrArg List.length (List.filter_congr fun pair hpair => ?_)
    have htells := (htold pair hpair).2.mpr (hstands pair hpair)
    exact isRouted_eq_any (tells_iff.mp htells)

/-- A routing step with edges by handles to two steps and a note. -/
def routing (edges : List (String × String)) : Document :=
  { nodes :=
      [{ id := "route", type := "flow", data := { mode := "router" } },
       { id := "review", type := "ai", data := { mode := "generate" } },
       { id := "log", type := "ai", data := { mode := "generate" } },
       { id := "note", type := "note", data := { mode := "default" } }]
    edges := edges.map fun edge =>
      { id := edge.1 ++ "_" ++ edge.2, source := "route", target := edge.1
        handle := some edge.2 } }

/-- Every edge of a fork stands for itself. -/
def fork : Document := routing [("review", "ops"), ("log", ""), ("note", "ops")]

/-- Two edges lead from the routing step to the same step. -/
def parallel : Document := routing [("review", ""), ("review", "ops")]

theorem fork_is_told :
    ∃ report, Report.of {} fork = .ok report ∧
      report.edges.map EdgeReport.wiring = [.route "ops", .always, .dropped] ∧
      report.routedCount = 1 := by
  obtain ⟨report, hreport⟩ : ∃ report, Report.of {} fork = .ok report := ⟨_, rfl⟩
  obtain ⟨hstands, hfates, hrouted⟩ :
      (∀ pair ∈ translated fork.nodes fork.edges,
          pair.2 ≠ none → fork.StandsForItself pair.1) ∧
        (translated fork.nodes fork.edges).map (fun pair => wiringOf pair.2) =
          [.route "ops", .always, .dropped] ∧
        ((translated fork.nodes fork.edges).filter fun pair =>
          pair.2.any Link.isRouted).length = 1 := by decide +kernel
  obtain ⟨htold, -, hcount⟩ := edges_told_iff
    ⟨by decide +kernel, by decide +kernel, by decide +kernel⟩ hreport
  refine ⟨report, hreport, ?_, (hcount hstands).trans hrouted⟩
  rw [← hfates, ← List.forall₂_eq_eq_eq, List.forall₂_map_left_iff, List.forall₂_map_right_iff]
  rw [List.forall₂_iff_zip] at htold ⊢
  refine ⟨htold.1, fun hmem => tells_iff.mp ((htold.2 hmem).2.mpr ?_)⟩
  exact hstands _ (List.of_mem_zip hmem).2

/-- Of two edges between the same steps the second is followed on a route only, but the report says
of both that they are always followed. -/
theorem parallel_edge_is_mistold :
    parallel.PlainIds ∧
      (Report.of {} parallel).map (fun report =>
        (report.edges.map EdgeReport.wiring, report.routedCount)) = .ok ([.always, .always], 0) ∧
      (translated parallel.nodes parallel.edges).map (fun pair => pair.2.map Link.condition) =
        [some .always, some (.route "ops")] :=
  ⟨⟨by decide +kernel, by decide +kernel, by decide +kernel⟩, by decide +kernel⟩

end Report

end FlowGraph
