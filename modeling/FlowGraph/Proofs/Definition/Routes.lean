/-
# Routes on the way through a saved definition

A link that is followed on a route names the route by its key, and loading makes the key the handle
of an edge again. Compiling lowers the keys of branches and leaves the keys of routers as they are
drawn. Loading does not know which of the two it reads, and lowers `true` and `false` for both. A
branch is not changed by that. The route of a router is changed exactly if its key is one of the two
words in other letters, and then once and for all: what was lowered stays as it is.
-/

import FlowGraph.Proofs.Case
import FlowGraph.Proofs.Definition.Reload
import FlowGraph.Proofs.Definition.WellFormed

namespace FlowGraph

open Compile Text

namespace Load

/-- The key is `true` or `false`, whatever the case of its letters. -/
def IsTruth (key : String) : Prop := lower key = "true" ∨ lower key = "false"

instance (key : String) : Decidable (IsTruth key) :=
  inferInstanceAs (Decidable (lower key = "true" ∨ lower key = "false"))

/-- A key as it is read back. -/
def readBack (key : String) : String := if IsTruth key then lower key else key

theorem lower_readBack (key : String) : lower (readBack key) = lower key := by
  rw [readBack]
  split
  · exact lower_lower key
  · rfl

theorem readBack_lower (key : String) : readBack (lower key) = lower key := by
  rw [readBack, lower_lower, ite_self]

theorem readBack_readBack (key : String) : readBack (readBack key) = readBack key := by
  by_cases htruth : IsTruth key
  · have hread : readBack key = lower key := if_pos htruth
    rw [hread, readBack_lower]
  · have hread : readBack key = key := if_neg htruth
    rw [hread, hread]

theorem trim_readBack {key : String} (hkey : trim key = key) :
    trim (readBack key) = readBack key := by
  rw [readBack]
  split
  · exact trim_lower hkey
  · exact hkey

theorem readBack_eq_empty_iff {key : String} : readBack key = "" ↔ key = "" := by
  rw [← lower_eq_empty_iff, lower_readBack, lower_eq_empty_iff]

theorem readBack_empty : readBack "" = "" := readBack_eq_empty_iff.mpr rfl

theorem not_isTruth_empty : ¬ IsTruth "" := by decide +kernel

/-- The handle of an edge is the key of its condition as it is read back. -/
theorem handle_route {key : String} (hkey : trim key = key) (hne : key ≠ "") :
    handle (Condition.route key).toWire = some (readBack key) := by
  have htype : ((Condition.route key).toWire.field "type").plainText = "route" := by
    rw [Condition.toWire, Value.field_object, Fields.get?_cons, if_pos rfl]
    rfl
  have hequals : ((Condition.route key).toWire.field "equals").plainText = key := by
    rw [Condition.toWire, Value.field_object, Fields.get?_cons, if_neg (by decide),
      Fields.get?_cons, if_pos rfl]
    exact hkey
  have hroute : lower "route" = "route" := by decide +kernel
  simp only [handle, htype, hequals, hroute, if_true, if_neg hne]
  rw [readBack, apply_ite some]
  rfl

theorem handle_always : handle Condition.always.toWire = none := by
  decide +kernel

theorem handle_of_edge?_toWire {link : Link} {index : Nat} {loaded : Edge}
    (hload : edge? link.toWire index = some loaded) :
    loaded.handle = handle link.condition.toWire := by
  have hwhen : link.toWire.field "when" = link.condition.toWire := by
    simp [Link.toWire, Fields.get?_cons]
  simp only [edge?, hwhen] at hload
  split at hload
  · cases hload
  · rw [← Option.some.inj hload]

end Load

open Load

/-- A condition after its link was loaded as an edge that leaves a step with this backend key, and
compiled again. -/
def Condition.reloaded (sourceKey : String) (saved : Condition) : Condition :=
  condition sourceKey (trim ((Load.handle saved.toWire).getD ""))

namespace Compile

variable {sourceKey key : String}

/-- The condition of a link is decided by the kind of routing and the handle. -/
theorem exists_condition_eq (sourceKey : String) :
    ∃ routing, routingOfKey sourceKey = routing ∧ ∀ key, condition sourceKey key =
      if key = "" then .always
      else
        match routing with
        | .branch => .route (lower key)
        | .route => .route key
        | _ => .always := by
  -- the routing is generalized first, so that no step below looks into the catalog
  unfold condition
  generalize routingOfKey sourceKey = routing
  refine ⟨routing, rfl, fun key => ?_⟩
  cases routing with
  | branch => rfl
  | route => rfl
  | _ => exact (ite_self _).symm

/-- Only the key of the handle is read back, and then everything is as it was. -/
theorem reloaded_condition (sourceKey : String) (hkey : trim key = key) :
    (condition sourceKey key).reloaded sourceKey = condition sourceKey (readBack key) := by
  obtain ⟨routing, -, hcondition⟩ := exists_condition_eq sourceKey
  have halways : Condition.always.reloaded sourceKey = .always := by
    have hblank : trim ((none : Option String).getD "") = "" := rfl
    rw [Condition.reloaded, handle_always, hblank, hcondition, if_pos rfl]
  by_cases hne : key = ""
  · rw [hne, readBack_empty, hcondition, if_pos rfl, halways]
  · have hread : readBack key ≠ "" := mt readBack_eq_empty_iff.mp hne
    have hlow : lower key ≠ "" := mt lower_eq_empty_iff.mp hne
    rw [hcondition, hcondition, if_neg hne, if_neg hread]
    cases routing with
    | branch =>
        rw [Condition.reloaded, handle_route (trim_lower hkey) hlow, readBack_lower,
          Option.getD_some, trim_lower hkey, hcondition, if_neg hlow, lower_lower, lower_readBack]
    | route =>
        rw [Condition.reloaded, handle_route hkey hne, Option.getD_some, trim_readBack hkey,
          hcondition, if_neg hread]
    | _ => exact halways

/-- The handle names a route of a router by one of the words that are lowered when read back, in
other letters. -/
def RouteIsMisread (sourceKey key : String) : Prop :=
  routingOfKey sourceKey = .route ∧ IsTruth key ∧ lower key ≠ key

theorem condition_readBack_eq_iff :
    condition sourceKey (readBack key) = condition sourceKey key ↔
      ¬ RouteIsMisread sourceKey key := by
  have hread : readBack key = key ↔ ¬ (IsTruth key ∧ lower key ≠ key) := by
    rw [readBack]
    split
    · next htruth => simp [htruth]
    · next htruth => simp [htruth]
  obtain ⟨routing, hrouting, hcondition⟩ := exists_condition_eq sourceKey
  rw [RouteIsMisread, hrouting, hcondition, hcondition]
  by_cases hne : key = ""
  · simp [hne, readBack_empty, not_isTruth_empty]
  · rw [if_neg hne, if_neg (mt readBack_eq_empty_iff.mp hne)]
    cases routing with
    | branch => simp [lower_readBack]
    | route => simpa using hread
    | _ => simp

/-- One way through a saved definition changes all that any number of them changes. -/
theorem iterate_reloaded (sourceKey : String) (hkey : trim key = key) (n : Nat) :
    (Condition.reloaded sourceKey)^[n + 1] (condition sourceKey key) =
      condition sourceKey (readBack key) := by
  induction n with
  | zero => rw [zero_add, Function.iterate_one, reloaded_condition sourceKey hkey]
  | succ n ih =>
      rw [Function.iterate_succ_apply', ih, reloaded_condition sourceKey (trim_readBack hkey),
        readBack_readBack]

/-! ## Edges and their links -/

/-- Wherever the edge joins two executed nodes, the first of which has this backend key, it becomes
a link that is followed under this condition. -/
def BecomesLink (sourceKey : String) (edge : Edge) (followed : Condition) : Prop :=
  ∀ nodes edges link?, (edge, link?) ∈ translated nodes edges → ∀ source target,
    joined? (placed nodes) edge = some (source, target) → nodeKey source.node = sourceKey →
      link?.map Link.condition = some followed

/-- The second link comes of the first by being loaded and compiled again so many times, in
whatever graphs, as long as the edge leaves a node with this backend key. -/
inductive Recompiled (sourceKey : String) (first : Link) : Nat → Link → Prop
  | start : Recompiled sourceKey first 0 first
  | again {rounds index : Nat} {link next : Link} {loaded : Edge} {nodes : List Node}
      {edges : List Edge} {source target : Placement} :
      Recompiled sourceKey first rounds link → Load.edge? link.toWire index = some loaded →
      (loaded, some next) ∈ translated nodes edges →
      joined? (placed nodes) loaded = some (source, target) → nodeKey source.node = sourceKey →
      Recompiled sourceKey first (rounds + 1) next

section Translated

variable {nodes : List Node} {edges : List Edge} {edge loaded : Edge} {link next : Link}
  {source target : Placement}

/-- A link of an edge joins two steps, and it is followed as the key of its source and the handle of
the edge tell. -/
theorem exists_joined_of_mem_translated (hpair : (edge, some link) ∈ translated nodes edges) :
    ∃ source target, joined? (placed nodes) edge = some (source, target) ∧
      link.ends = (source.stepId, target.stepId) ∧
      link.condition = condition (lower (nodeKey source.node)) (trim (edge.handle.getD "")) := by
  obtain ⟨⟨source, target⟩, hjoined, hends⟩ :=
    Option.map_eq_some_iff.mp (ends_of_mem_translated hpair).symm
  refine ⟨source, target, hjoined, hends.symm, ?_⟩
  rw [condition_of_mem_translated hpair rfl, conditionOf, (joined?_eq_some_iff.mp hjoined).1]
  rfl

/-- Wherever the link stands in a definition, it is loaded as one edge. -/
theorem exists_loaded_of_mem_translated (hpair : (edge, some link) ∈ translated nodes edges) :
    ∃ loaded : Edge, (∀ index, Load.edge? link.toWire index = some loaded) ∧
      loaded.ends = link.ends := by
  obtain ⟨source, target, hjoined, hends, -⟩ := exists_joined_of_mem_translated hpair
  obtain ⟨hsourceStep, htargetStep⟩ := Prod.mk.inj hends
  obtain ⟨hsource, htarget⟩ := mem_placed_of_joined? hjoined
  have hdiffer := (joined?_eq_some_iff.mp hjoined).2.2
  rw [← hsourceStep, ← htargetStep] at hdiffer
  obtain ⟨used, index, hlink⟩ := exists_link?_of_mem hpair
  have hid := (id_of_link? hlink.symm).1
  refine ⟨{ id := link.id, source := link.source, target := link.target
            handle := Load.handle link.condition.toWire }, fun index => ?_, rfl⟩
  rw [Load.edge?_toWire (hsourceStep ▸ isStepId_of_mem_placements hsource)
    (htargetStep ▸ isStepId_of_mem_placements htarget) hdiffer, hid.trim_eq, firstText,
    if_neg hid.ne_empty]
  exact fun hnone => by cases hnone

/-- One round: the link of a loaded edge is followed as the key of its source and the condition of
the loaded link tell. -/
theorem condition_of_loaded {index : Nat} (hload : Load.edge? link.toWire index = some loaded)
    (hnext : (loaded, some next) ∈ translated nodes edges)
    (hjoined : joined? (placed nodes) loaded = some (source, target)) :
    next.condition = link.condition.reloaded (lower (nodeKey source.node)) := by
  obtain ⟨first, second, hsame, -, hcondition⟩ := exists_joined_of_mem_translated hnext
  obtain ⟨rfl, rfl⟩ := Prod.mk.inj (Option.some.inj (hjoined.symm.trans hsame))
  rw [hcondition, Condition.reloaded, Load.handle_of_edge?_toWire hload]

/-- Any number of rounds. -/
theorem Recompiled.condition_eq {sourceKey : String} {rounds : Nat}
    (hrounds : Recompiled sourceKey link rounds next) :
    next.condition = (Condition.reloaded (lower sourceKey))^[rounds] link.condition := by
  induction hrounds with
  | start => rfl
  | again _ hload hnext hjoined hkey ih =>
      rw [condition_of_loaded hload hnext hjoined, hkey, ih, Function.iterate_succ_apply']

/-- Every link of an edge comes back as an edge between the same steps, and wherever that joins
nodes again, the first of which has the same backend key, it becomes a link. After any number of
rounds of this, at least one, the link is followed under the same condition as at first, unless the
edge leaves a router by a route whose key is `true` or `false` in other letters. -/
theorem routes_reload_iff (hpair : (edge, some link) ∈ translated nodes edges) :
    ∃ source target loaded, joined? (placed nodes) edge = some (source, target) ∧
      (∀ index, Load.edge? link.toWire index = some loaded) ∧ loaded.ends = link.ends ∧
      BecomesLink (nodeKey source.node) loaded
        (link.condition.reloaded (lower (nodeKey source.node))) ∧
      ∀ rounds last, Recompiled (nodeKey source.node) link (rounds + 1) last →
        (last.condition = link.condition ↔
          ¬ RouteIsMisread (lower (nodeKey source.node)) (trim (edge.handle.getD ""))) := by
  obtain ⟨source, target, hjoined, -, hcondition⟩ := exists_joined_of_mem_translated hpair
  obtain ⟨loaded, hloaded, hends⟩ := exists_loaded_of_mem_translated hpair
  refine ⟨source, target, loaded, hjoined, hloaded, hends, ?_, fun rounds last hrounds => ?_⟩
  · intro nodes' edges' link? hmade source' target' hjoined' hkey
    have hends' := ends_of_mem_translated hmade
    rw [hjoined', Option.map_some] at hends'
    obtain ⟨next, rfl, -⟩ := Option.map_eq_some_iff.mp hends'
    rw [Option.map_some, condition_of_loaded (hloaded 0) hmade hjoined', hkey]
  · rw [hrounds.condition_eq, hcondition, iterate_reloaded _ (trim_trim _),
      condition_readBack_eq_iff]

end Translated

/-- A router with one route to a step. -/
def routed (key : String) : Document :=
  { nodes :=
      [{ id := "route", type := "flow", data := { mode := "router" } },
       { id := "review", type := "ai", data := { mode := "generate" } }]
    edges := [{ id := "e", source := "route", target := "review", handle := some key }] }

/-- A capital in any other key is kept, in the next round and in every later one. -/
theorem finance_route_reloads :
    ∃ edge link, (routed "Finance").edges = [edge] ∧
      (edge, some link) ∈ translated (routed "Finance").nodes (routed "Finance").edges ∧
      link.condition = .route "Finance" ∧ (∃ next, Recompiled "flow.route" link 1 next) ∧
      ∀ rounds last, Recompiled "flow.route" link (rounds + 1) last →
        last.condition = .route "Finance" := by
  have hpair : ((⟨"e", "route", "review", some "Finance"⟩ : Edge),
      some (⟨"e", "route", "review", .route "Finance"⟩ : Link)) ∈
        translated (routed "Finance").nodes (routed "Finance").edges := by decide +kernel
  refine ⟨_, _, rfl, hpair, rfl, ?_⟩
  obtain ⟨source, target, loaded, hjoined, hloaded, -, -, hiff⟩ := routes_reload_iff hpair
  have hkeys : (joined? (placed (routed "Finance").nodes)
      ⟨"e", "route", "review", some "Finance"⟩).map (fun joined => nodeKey joined.1.node) =
        some "flow.route" := by decide +kernel
  have hkey : nodeKey source.node = "flow.route" := by simpa [hjoined] using hkeys
  rw [hkey] at hiff
  -- the edge comes back as it was drawn
  obtain rfl : loaded = ⟨"e", "route", "review", some "Finance"⟩ :=
    Option.some.inj ((hloaded 0).symm.trans (by decide +kernel))
  have htruth : ¬ IsTruth (trim ((some "Finance").getD "")) := by decide +kernel
  exact ⟨⟨_, .again .start (hloaded 0) hpair hjoined hkey⟩,
    fun rounds last hrounds => (hiff rounds last hrounds).mpr fun hmisread => htruth hmisread.2.1⟩

/-- The route of a router whose key is a truth value with a capital is another one after its
definition was loaded. -/
theorem capitalized_route_is_lost :
    (((routed "True").compile {}).bind fun saved =>
      (Load.document saved.toWire "Copy").bind fun loaded =>
        (loaded.compile {}).map fun again =>
          (saved.links.map Link.condition, again.links.map Link.condition)) =
      .ok ([.route "True"], [.route "true"]) := by
  decide +kernel

end Compile

end FlowGraph
